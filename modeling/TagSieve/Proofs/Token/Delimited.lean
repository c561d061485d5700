import TagSieve.Proofs.Canonical.Printing
import TagSieve.Proofs.Text.Delimited
import TagSieve.Proofs.Token.Settling

/-! Literals between delimiters and tag keys in a source. What a lexer answers to a literal depends
on where it ends and what it holds. Just the texts and names that end in a backslash have no source.
-/
namespace TagSieve

variable {cs body rest rest' text : List Char} {i m : Bool} {j k n p : Nat} {source : String}
  {l : Lexer} {v : Value} {kind : Delimited}

open Reading

theorem readString_closed (h : Escaped.decode (· == '"') body = (text, '"' :: rest)) :
    readToken ('"' :: body) = .ok (.value (.string (String.ofList text)))
      (1 + Escaped.extent (· == '"') body + 1) rest := by
  rw [readToken_quote]
  simp only [readString, List.drop_succ_cons, List.drop_zero, h]

theorem readRegex_closed (h : Escaped.decode (· == '/') body = (text, '/' :: rest))
    (hflags : readFlags false false rest = (.ok (i, m), n, rest')) :
    readToken ('/' :: body) = match Pattern.ofSource? (String.ofList text) i m with
      | some q => .ok (.value (.regex q)) (1 + Escaped.extent (· == '/') body + 1 + n) rest'
      | none => failTaken (.invalidRegex (String.ofList text) i m)
          (1 + Escaped.extent (· == '/') body + 1 + n) rest' := by
  rw [readToken_slash]
  cases hq : Pattern.ofSource? (String.ofList text) i m with
  | none => simp only [readRegex, List.drop_succ_cons, List.drop_zero, h, hflags, hq]
  | some q => simp only [readRegex, List.drop_succ_cons, List.drop_zero, h, hflags, hq]

theorem readRegex_repeated {flag : Char} (h : Escaped.decode (· == '/') body = (text, '/' :: rest))
    (hflags : readFlags false false rest = (.error flag, n, rest')) :
    readToken ('/' :: body) = .fail (.duplicateRegexFlag flag)
      (1 + Escaped.extent (· == '/') body + 1 + n) (1 + Escaped.extent (· == '/') body + 1 + n + 1)
      (1 + Escaped.extent (· == '/') body + 1 + n) rest' := by
  rw [readToken_slash]
  simp only [readRegex, List.drop_succ_cons, List.drop_zero, h, hflags]

theorem readToken_unterminated (hkind : kind ≠ .tagKey)
    (h : (Escaped.decode (· == kind.delimiter) body).2 = []) :
    readToken (kind.delimiter :: body) = failTaken (.unterminated kind) (1 + body.length) [] := by
  have hlen : Escaped.extent (· == kind.delimiter) body + _ = _ := Escaped.extent_add_length body
  rw [h, List.length_nil, Nat.add_zero] at hlen
  have hdecode : Escaped.decode (· == kind.delimiter) body =
      ((Escaped.decode (· == kind.delimiter) body).1, []) := Prod.ext rfl h
  cases kind with
  | string =>
    simp only [Delimited.delimiter] at hdecode hlen ⊢
    rw [readToken_quote]
    simp only [readString, List.drop_succ_cons, List.drop_zero]
    rw [hlen, hdecode]
  | regex =>
    simp only [Delimited.delimiter] at hdecode hlen ⊢
    rw [readToken_slash]
    simp only [readRegex, List.drop_succ_cons, List.drop_zero]
    rw [hlen, hdecode]
  | tagKey => exact absurd rfl hkind

/-- The spelling of a value is read as this value and nothing else. -/
def Value.ReadsBack (v : Value) : Prop :=
  (Lexer.ofString v.text).Reads
    [⟨.start, ⟨0, 0⟩⟩, ⟨.value v, ⟨0, v.chars.length⟩⟩] ⟨v.chars.length, v.chars.length⟩

theorem Value.readsBack_iff (hv : v.Finite) : v.ReadsBack ↔ v.Closable := by
  constructor
  · intro h
    obtain ⟨ts, htokens, hts⟩ := Lexer.reads_ofString.mp h
    obtain ⟨-, rfl⟩ := List.cons.inj htokens
    exact hts.closable rfl _ List.mem_cons_self v rfl
  · intro h
    have hread := readToken_value h hv
    have hskip : skipBlanks v.chars = v.chars := skipBlanks_eq_self hread
    have hlen := (takes_skipBlanks v.chars).length_add
    rw [hskip] at hlen
    have hblanks : blanks v.chars = 0 := by omega
    have hvalue : Symbol.value v ≠ .finish := nofun
    have hlays := Lays.cons (hskip.symm ▸ hread) hvalue
      (.nil (0 + blanks v.chars + v.chars.length) [])
    rw [hblanks, Nat.zero_add, Nat.zero_add, ← String.toList_ofList (l := v.chars)] at hlays
    have hreads := Lexer.reads_of_lays hlays
    rw [String.toList_ofList] at hreads
    exact hreads

/-- What a lexer answers to a literal that opens at `p`, closes at `j` and holds `text`. A regular
expression has its flags behind that, and it may not compile. -/
inductive LiteralAnswer (cs : List Char) (p j : Nat) (text : List Char) :
    Delimited → Except LexError Token → Prop
  | string : LiteralAnswer cs p j text .string
      (.ok ⟨.value (.string (String.ofList text)), ⟨p, j + 1⟩⟩)
  | regex {i m : Bool} {n : Nat} {rest : List Char} {q : Pattern}
      (hflags : readFlags false false (cs.drop (j + 1)) = (.ok (i, m), n, rest))
      (hq : Pattern.ofSource? (String.ofList text) i m = some q) :
    LiteralAnswer cs p j text .regex (.ok ⟨.value (.regex q), ⟨p, j + 1 + n⟩⟩)
  | invalid {i m : Bool} {n : Nat} {rest : List Char}
      (hflags : readFlags false false (cs.drop (j + 1)) = (.ok (i, m), n, rest))
      (hq : Pattern.ofSource? (String.ofList text) i m = none) :
    LiteralAnswer cs p j text .regex
      (.error ⟨.invalidRegex (String.ofList text) i m, ⟨p, j + 1 + n⟩⟩)
  | repeated {flag : Char} {n : Nat} {rest : List Char}
      (hflags : readFlags false false (cs.drop (j + 1)) = (.error flag, n, rest)) :
    LiteralAnswer cs p j text .regex
      (.error ⟨.duplicateRegexFlag flag, ⟨j + 1 + n, j + 1 + n + 1⟩⟩)

theorem Delimited.delimiter_ne_backslash (kind : Delimited) : kind.delimiter ≠ '\\' := by
  cases kind <;> decide

namespace Lexer

/-- A lexer has behind its position what it has left to read. -/
theorem takes_skip (source : String) (k : Nat) :
    Takes source.toList ((ofString source).skip k).position ((ofString source).skip k).rest := by
  induction k with
  | zero => exact .refl _
  | succ k ih =>
    rw [skip_succ]
    generalize (ofString source).skip k = l at ih
    cases hl : l.started with
    | true =>
      have htaken : Takes _ _ _ := takenFrom_readToken (skipBlanks l.rest)
      rw [next_after hl]
      exact (ih.trans (takes_skipBlanks l.rest)).trans htaken
    | false =>
      rw [next_of_not_started hl]
      exact ih

theorem skipBlanks_skip (hskip : l = (ofString source).skip k)
    (hp : p = l.position + blanks l.rest) : skipBlanks l.rest = source.toList.drop p := by
  subst hskip hp
  obtain ⟨taken, hlen, hsource⟩ := (takes_skip source k).trans (takes_skipBlanks _)
  rw [← hlen, ← hsource, List.drop_left]

theorem next_of_fail {cause : LexCause} {start stop : Nat} (hl : l.started = true)
    (h : readToken (skipBlanks l.rest) = .fail cause start stop n rest) :
    l.next.1 = .error
      ⟨cause, ⟨l.position + blanks l.rest + start, l.position + blanks l.rest + stop⟩⟩ :=
  next_error hl (congrArg Reading.outcome h)

/-- The answer to a literal that is closed. -/
theorem literalAnswer_next (hl : l.started = true) (hp : p = l.position + blanks l.rest)
    (hrest : skipBlanks l.rest = cs.drop p) (hkind : kind ≠ .tagKey)
    (h : Escaped.LiteralAt kind.delimiter cs p j text) :
    LiteralAnswer cs p j text kind l.next.1 := by
  obtain ⟨hdecode, hj⟩ := Escaped.decode_of_literalAt kind.delimiter_ne_backslash h
  rw [Escaped.drop_eq_cons h.opens] at hrest
  cases kind with
  | tagKey => exact absurd rfl hkind
  | string =>
    simp only [Delimited.delimiter] at hdecode hj hrest
    have hread := readString_closed hdecode
    have hstop : p + (1 + Escaped.extent (· == '"') (cs.drop (p + 1)) + 1) = j + 1 := by omega
    rw [← hrest] at hread
    rw [next_of_readToken hl hread, ← hp, hstop]
    exact .string
  | regex =>
    simp only [Delimited.delimiter] at hdecode hj hrest
    obtain ⟨flags, n, rest, hflags⟩ :
        ∃ flags n rest, readFlags false false (cs.drop (j + 1)) = (flags, n, rest) :=
      ⟨_, _, _, rfl⟩
    have hstop : p + (1 + Escaped.extent (· == '/') (cs.drop (p + 1)) + 1 + n) = j + 1 + n := by
      omega
    cases flags with
    | error flag =>
      have hread := readRegex_repeated hdecode hflags
      rw [← hrest] at hread
      rw [next_of_fail hl hread, ← hp, hstop, ← Nat.add_assoc p, hstop]
      exact .repeated hflags
    | ok flags =>
      obtain ⟨i, m⟩ := flags
      have hread := readRegex_closed hdecode hflags
      rw [← hrest] at hread
      cases hq : Pattern.ofSource? (String.ofList text) i m with
      | none =>
        rw [hq] at hread
        rw [next_of_fail hl hread, ← hp, hstop]
        exact .invalid hflags hq
      | some q =>
        rw [hq] at hread
        rw [next_of_readToken hl hread, ← hp, hstop]
        exact .regex hflags hq

/-- The answer to a literal that nothing closes. -/
theorem unterminated_next (hl : l.started = true) (hp : p = l.position + blanks l.rest)
    (hrest : skipBlanks l.rest = cs.drop p) (hkind : kind ≠ .tagKey)
    (hopens : cs[p]? = some kind.delimiter)
    (h : ∀ j, ¬ Escaped.ClosesAt kind.delimiter cs p j) :
    l.next.1 = .error ⟨.unterminated kind, ⟨p, cs.length⟩⟩ := by
  have hbody := Escaped.decode_of_not_closes kind.delimiter_ne_backslash hopens h
  have hread := readToken_unterminated hkind hbody
  rw [← Escaped.drop_eq_cons hopens, ← hrest] at hread
  obtain ⟨hlt, -⟩ := List.getElem?_eq_some_iff.mp hopens
  have hstop : p + (1 + (cs.drop (p + 1)).length) = cs.length := by
    rw [List.length_drop]
    omega
  rw [next_of_fail hl hread, ← hp, hstop]
  rfl

/-- Every value that a lexer gives can be written again. -/
theorem closable_of_answer {span : Span}
    (h : ((ofString source).skip k).next.1 = .ok ⟨.value v, span⟩) : v.Closable := by
  cases k with
  | zero => cases h
  | succ k => exact closable_of_next (started_skip k _) h rfl

/-- A string or a regular expression ends at the first delimiter with no backslash right before it,
and holds what stands between without the backslashes right before delimiters. Without such a
delimiter the rest of the source is one error. A text is read back from its own spelling if it does
not end in a backslash, and no literal holds a text that does. -/
theorem literals_exact :
    (∀ kind : Delimited, kind ≠ .tagKey →
      (∀ source k l p, l = (ofString source).skip (k + 1) → p = l.position + blanks l.rest →
        source.toList[p]? = some kind.delimiter →
        (∀ j text, Escaped.LiteralAt kind.delimiter source.toList p j text →
          LiteralAnswer source.toList p j text kind l.next.1) ∧
        ((∀ j, ¬ Escaped.ClosesAt kind.delimiter source.toList p j) →
          l.next.1 = .error ⟨.unterminated kind, ⟨p, source.toList.length⟩⟩)) ∧
      (∀ before text rest : List Char,
        Escaped.LiteralAt kind.delimiter
          (before ++ kind.delimiter ::
            (Escaped.encode (· == kind.delimiter) text ++ kind.delimiter :: rest))
          before.length (before.length + 1 + (Escaped.encode (· == kind.delimiter) text).length)
          text ↔ text.getLast? ≠ some '\\') ∧
      (∀ cs p j text, Escaped.LiteralAt kind.delimiter cs p j text →
        text.getLast? ≠ some '\\')) ∧
    (∀ s : String, (Value.string s).ReadsBack ↔ s.toList.getLast? ≠ some '\\') ∧
    (∀ q : Pattern, (Value.regex q).ReadsBack ↔ q.source.toList.getLast? ≠ some '\\') := by
  refine ⟨?_, fun s => Value.readsBack_iff trivial, fun q => Value.readsBack_iff trivial⟩
  intro kind hkind
  refine ⟨?_, fun before text => Escaped.literalAt_encode_iff kind.delimiter_ne_backslash before,
    fun cs p j text h => h.closable kind.delimiter_ne_backslash⟩
  intro source k l p hskip hp hopens
  have hl : l.started = true := hskip ▸ started_skip k _
  have hrest := skipBlanks_skip hskip hp
  exact ⟨fun j text h => literalAnswer_next hl hp hrest hkind h,
    unterminated_next hl hp hrest hkind hopens⟩

/-- A string with a quote in it, and one that ends in a quote and is never closed. -/
def quotedChars : List Char := "\"a\\\"b\" \"c\\\"".toList

def quotedSource : String := String.ofList quotedChars

theorem literals_exact_quoted :
    ((ofString quotedSource).skip 1).next.1 =
      .ok ⟨.value (.string (String.ofList ['a', '"', 'b'])), ⟨0, 6⟩⟩ ∧
    ((ofString quotedSource).skip 2).next.1 = .error ⟨.unterminated .string, ⟨7, 11⟩⟩ ∧
    (Value.string "a\"b").ReadsBack := by
  obtain ⟨hkinds, hstrings, -⟩ := literals_exact
  obtain ⟨hread, -, -⟩ := hkinds .string nofun
  have hchars : quotedSource.toList = quotedChars := String.toList_ofList
  have hlen : quotedChars.length = 11 := by decide
  refine ⟨?_, ?_, ?_⟩
  · have hfirst : ∀ i < 5, ¬ Escaped.ClosesAt '"' quotedChars 0 i := by decide
    have hliteral : Escaped.LiteralAt '"' quotedChars 0 5 ['a', '"', 'b'] := by
      refine ⟨by decide, by decide, fun i hi => ?_, by decide⟩
      by_contra hlt
      exact hfirst i (by omega) hi
    obtain ⟨hclosed, -⟩ := hread quotedSource 0 _ 0 rfl (by decide) (by rw [hchars]; decide)
    rw [hchars] at hclosed
    have hanswer := hclosed 5 _ hliteral
    generalize ((ofString quotedSource).skip 1).next.1 = answer at hanswer ⊢
    cases hanswer
    rfl
  · have hopen : ∀ j < 11, ¬ Escaped.ClosesAt '"' quotedChars 7 j := by decide
    obtain ⟨-, hunclosed⟩ := hread quotedSource 1 _ 7 rfl (by decide) (by rw [hchars]; decide)
    rw [hchars, hlen] at hunclosed
    apply hunclosed
    intro j hj
    obtain ⟨hlt, -⟩ := List.getElem?_eq_some_iff.mp hj.2.1
    exact hopen j (by omega) hj
  · exact (hstrings _).mpr (by decide)

end Lexer

/-- A key has a source if its name does not end in a backslash: its own spelling is read as this
key. No other key is ever read. -/
theorem TagKey.has_source_iff (key : TagKey) :
    ((Value.tag key).ReadsBack ↔ key.name.toList.getLast? ≠ some '\\') ∧
    ((∃ source k span, ((Lexer.ofString source).skip k).next.1 = .ok ⟨.value (.tag key), span⟩) ↔
      key.name.toList.getLast? ≠ some '\\') := by
  have hread : (Value.tag key).ReadsBack ↔ key.name.toList.getLast? ≠ some '\\' :=
    Value.readsBack_iff trivial
  refine ⟨hread, ?_, fun hname => ?_⟩
  · rintro ⟨source, k, span, h⟩
    exact Lexer.closable_of_answer h
  · obtain ⟨ts, htokens, hts⟩ := Lexer.reads_ofString.mp (hread.mpr hname)
    obtain ⟨-, rfl⟩ := List.cons.inj htokens
    cases hts with
    | token h _ _ => exact ⟨_, 1, _, h⟩

end TagSieve
