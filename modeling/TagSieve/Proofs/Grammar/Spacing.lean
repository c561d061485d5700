import Mathlib.Logic.Relation
import TagSieve.Proofs.Grammar.Parsing
import TagSieve.Proofs.Token.Spacing

/-! Filters do not depend on the blanks between their tokens, and need them only where two tokens
would be read as others without. -/
namespace TagSieve

variable {source source' : String} {ss : List Symbol} {pieces : List Piece} {trail : List Char}

/-- No exchange of blanks, however many follow each other, changes the symbols. -/
theorem lexes_of_respaces (h : Relation.ReflTransGen Respaces source source')
    (hss : Lexes source ss) : Lexes source' ss := by
  induction h with
  | refl => exact hss
  | tail _ hstep ih => exact hstep.lexes ih

theorem Filter.parse_of_respaces {f : Filter} (hf : (parse source).result = .ok f)
    (h : Relation.ReflTransGen Respaces source source') :
    ∃ f', (parse source').result = .ok f' ∧ f'.expr.unspanned = f.expr.unspanned := by
  obtain ⟨d, hlexes, hobeys, htree⟩ := f.derives
  rw [source_of_parse hf] at hlexes
  obtain ⟨f', hf', htree'⟩ := exists_of_lexes (lexes_of_respaces h hlexes) hobeys
  exact ⟨f', hf', htree'.trans htree⟩

theorem Lexer.reads_spaced (halone : ∀ x ∈ pieces, x.Alone) (hblank : ∀ x ∈ pieces, IsBlank x.gap)
    (hgap : ∀ x ∈ pieces.tail, x.gap ≠ []) (htrail : IsBlank trail) :
    (ofString (String.ofList (spaced pieces ++ trail))).Reads (⟨.start, ⟨0, 0⟩⟩ :: placed 0 pieces)
      ⟨(spaced pieces ++ trail).length, (spaced pieces ++ trail).length⟩ := by
  refine reads_ofString.mpr ⟨_, rfl, (reads_iff_fills rfl).mpr ?_⟩
  simp only [String.toList_ofList, Nat.zero_add, and_true]
  exact fills_spaced halone hblank hgap htrail 0

/-- Texts that are one token each, with blanks between them and any around them, are read as these
tokens one behind the other, each moved by the offset of its text. In a filter the blanks between
two tokens can be exchanged for others, and blanks can be put in wherever a token ends or starts:
it stays a filter, and its tree is the same but for the spans. -/
theorem blanks_between_tokens :
    (∀ (pieces : List Piece) (trail : List Char), (∀ x ∈ pieces, x.Alone) →
      (∀ x ∈ pieces, IsBlank x.gap) → (∀ x ∈ pieces.tail, x.gap ≠ []) → IsBlank trail →
      (Lexer.ofString (String.ofList (spaced pieces ++ trail))).Reads
        (⟨.start, ⟨0, 0⟩⟩ :: placed 0 pieces)
        ⟨(spaced pieces ++ trail).length, (spaced pieces ++ trail).length⟩) ∧
    (∀ source source' f, (Filter.parse source).result = .ok f →
      Relation.ReflTransGen Respaces source source' →
      ∃ f', (Filter.parse source').result = .ok f' ∧ f'.expr.unspanned = f.expr.unspanned) :=
  ⟨fun _ _ halone hblank hgap htrail => Lexer.reads_spaced halone hblank hgap htrail,
    fun _ _ _ hf h => Filter.parse_of_respaces hf h⟩

/-- Tokens that touch each other. -/
def touchingFront : List Char := "%a".toList

def touchingBack : List Char := "==5".toList

def touchingTokens : List Token :=
  [⟨.start, ⟨0, 0⟩⟩, ⟨.value (.tag ⟨"a", .unset⟩), ⟨0, 2⟩⟩, ⟨.operator .equal, ⟨2, 4⟩⟩,
    ⟨.value (.integer 5), ⟨4, 5⟩⟩]

theorem reads_touching : (Lexer.ofString (String.ofList (touchingFront ++ ([] ++ touchingBack)))).Reads
    touchingTokens ⟨5, 5⟩ := by
  apply Lexer.reads_of_calls
  · decide
  · rw [Lexer.ofString, String.toList_ofList]
    decide +kernel

/-- The same tokens apart, with an ideographic blank between two of them. -/
def apartPieces : List Piece :=
  [⟨[], "%a".toList, ⟨.value (.tag ⟨"a", .unset⟩), ⟨0, 2⟩⟩⟩,
    ⟨['\u3000'], "==".toList, ⟨.operator .equal, ⟨0, 2⟩⟩⟩,
    ⟨['\t', ' '], "5".toList, ⟨.value (.integer 5), ⟨0, 1⟩⟩⟩]

theorem alone_of_calls {x : Piece} {n : Nat}
    (h : (Lexer.ofChars x.text).calls 3 =
      [.ok ⟨.start, ⟨0, 0⟩⟩, .ok x.token, .ok ⟨.finish, ⟨n, n⟩⟩])
    (hx : x.token.symbol ≠ .finish) : x.Alone := by
  refine ⟨⟨n, n⟩, Lexer.reads_of_calls ?_ ?_⟩
  · simpa using hx
  · rw [Lexer.ofString, String.toList_ofList]
    exact h

theorem blanks_between_tokens_apart :
    (Lexer.ofString (String.ofList (spaced apartPieces ++ ['\n']))).Reads
      [⟨.start, ⟨0, 0⟩⟩, ⟨.value (.tag ⟨"a", .unset⟩), ⟨0, 2⟩⟩, ⟨.operator .equal, ⟨3, 5⟩⟩,
        ⟨.value (.integer 5), ⟨7, 8⟩⟩] ⟨9, 9⟩ ∧
    ∃ f f', (Filter.parse (String.ofList (touchingFront ++ ([] ++ touchingBack)))).result = .ok f ∧
      (Filter.parse (String.ofList (touchingFront ++ (['\u3000'] ++ touchingBack)))).result =
        .ok f' ∧ f'.expr.unspanned = f.expr.unspanned := by
  obtain ⟨hreads, hparse⟩ := blanks_between_tokens
  constructor
  · refine hreads apartPieces ['\n'] ?_ (by decide +kernel) (by decide) (by decide +kernel)
    intro x hx
    simp only [apartPieces, List.mem_cons, List.not_mem_nil, or_false] at hx
    rcases hx with rfl | rfl | rfl
    · exact alone_of_calls (n := 2) (by decide +kernel) (by decide)
    · exact alone_of_calls (n := 2) (by decide +kernel) (by decide)
    · exact alone_of_calls (n := 1) (by decide +kernel) (by decide)
  · obtain ⟨f, hf, -⟩ := Filter.exists_of_lexes
      (d := .single (.single (.comparison (.tag ⟨"a", .unset⟩) .equal (.integer 5))))
      ⟨_, _, reads_touching, rfl⟩ (misuse?_eq_none.mp rfl)
    have hstep : Respaces _ (String.ofList (touchingFront ++ (['\u3000'] ++ touchingBack))) :=
      .mk reads_touching (by decide) (by decide +kernel) fun _ => List.cons_ne_nil _ _
    obtain ⟨f', hf', htree⟩ := hparse _ _ f hf (.single hstep)
    exact ⟨f, f', hf, hf', htree⟩

end TagSieve
