import TagSieve.Proofs.Canonical.Forms
import TagSieve.Proofs.Token.Lexing
import TagSieve.Proofs.Token.Spelling

/-! The canonical text of a tree is read as the sentence of its derivation, or refused at the first
number that is infinite or none. -/
namespace TagSieve

variable {cs more rest rest' : List Char} {s : Symbol} {ss ts : List Symbol} {v : Value} {p q : Prop}

/-- Whether a character is no parenthesis and starts no token. -/
def startsNothing (c : Char) : Bool :=
  !punctuation.contains c && !(c.isDigit || c == '+' || c == '-') &&
    !(Unicode.isAlphabetic c || c == '_')

theorem startsNothing_of_isWhitespace {c : Char} (h : Unicode.isWhitespace c = true) :
    startsNothing c = true := by
  have hboundary : isBoundary c = true := by simp [isBoundary, h]
  have hident := not_isIdentChar hboundary
  simp only [isIdentChar, Unicode.isAlphanumeric, Bool.or_eq_false_iff] at hident
  have hc := of_isBoundary (fun c => c == '(' || c == ')' ||
    (!punctuation.contains c && !(c.isDigit || c == '+' || c == '-'))) (by decide +kernel) hboundary
  simp only [Bool.or_eq_true, beq_iff_eq] at hc
  rcases hc with (rfl | rfl) | hc
  · cases h
  · cases h
  · rw [startsNothing, hc, hident.1.1, hident.2]
    rfl

theorem readToken_blank {c : Char} (h : Unicode.isWhitespace c = true) (cs : List Char) :
    ∃ e, (readToken (c :: cs)).outcome = .error e := by
  have hc := startsNothing_of_isWhitespace h
  simp only [startsNothing, Bool.and_eq_true, Bool.not_eq_true', List.contains_eq_mem,
    decide_eq_false_iff_not] at hc
  rw [readToken_word hc.1.1, hc.1.2, hc.2]
  exact ⟨_, rfl⟩

theorem skipBlanks_eq_self {n : Nat} (h : readToken cs = .ok s n rest) : skipBlanks cs = cs := by
  cases cs with
  | nil => rfl
  | cons c cs =>
    cases hc : Unicode.isWhitespace c with
    | false => simp [skipBlanks, hc]
    | true =>
      obtain ⟨e, he⟩ := readToken_blank hc cs
      rw [h] at he
      cases he

theorem Spells.blank (h : Spells cs (s :: ss) rest) : Spells (' ' :: cs) (s :: ss) rest := by
  cases h with
  | cons h hs hss => exact .cons h hs hss

theorem Refused.blank (h : Refused cs) : Refused (' ' :: cs) := by
  obtain ⟨ss, rest, e, hss, he⟩ := h
  cases hss with
  | nil => exact ⟨[], _, e, .nil _, he⟩
  | cons h hs hss => exact ⟨_, rest, e, (Spells.cons h hs hss).blank, he⟩

theorem skipBlanks_floatChars {x : Binary64} (hx : x.isFinite = false) (more : List Char) :
    skipBlanks (floatChars x ++ more) = floatChars x ++ more := by
  rcases floatChars_of_not_isFinite hx with h | h | h <;> rw [h] <;> rfl

/-- Reading the symbols off the front of a text leaves the rest if a condition holds, and comes to an
error otherwise. -/
def SpellsIf (p : Prop) (cs : List Char) (ss : List Symbol) (rest : List Char) : Prop :=
  (p → Spells cs ss rest) ∧ (¬ p → Refused cs)

namespace SpellsIf

theorem append (h : SpellsIf p cs ss rest) (h' : SpellsIf q rest ts rest') :
    SpellsIf (p ∧ q) cs (ss ++ ts) rest' := by
  constructor
  · rintro ⟨hp, hq⟩
    exact (h.1 hp).append (h'.1 hq)
  · intro hpq
    by_cases hp : p
    · exact (h.1 hp).refused (h'.2 fun hq => hpq ⟨hp, hq⟩)
    · exact h.2 hp

theorem blank (h : SpellsIf p cs ss rest) (hss : ss ≠ []) : SpellsIf p (' ' :: cs) ss rest := by
  cases ss with
  | nil => exact absurd rfl hss
  | cons s ss => exact ⟨fun hp => (h.1 hp).blank, fun hp => (h.2 hp).blank⟩

end SpellsIf

/-- The text is read as the symbols wherever no token goes on into what follows it, if a condition
holds, and refused otherwise. -/
def Spelled (p : Prop) (cs : List Char) (ss : List Symbol) : Prop :=
  ∀ more, Ends more → SpellsIf p (cs ++ more) ss more

namespace Spelled

theorem congr (hpq : p ↔ q) (h : Spelled p cs ss) : Spelled q cs ss := propext hpq ▸ h

/-- Two texts with a blank between them. -/
theorem spaced {bs : List Char} (h : Spelled p cs ss) (h' : Spelled q bs ts) (hts : ts ≠ []) :
    Spelled (p ∧ q) (cs ++ ' ' :: bs) (ss ++ ts) := by
  intro more hmore
  rw [List.append_assoc, List.cons_append]
  exact (h _ (ends_cons rfl _)).append ((h' more hmore).blank hts)

theorem symbol (hs : s.Writable) : Spelled True s.chars [s] := by
  intro more hmore
  have hread := readToken_chars_append hs hmore
  have hfinish : s ≠ .finish := by
    rintro rfl
    exact hs
  have hspells : Spells (s.chars ++ more) [s] more :=
    .cons ((skipBlanks_eq_self hread).symm ▸ hread) hfinish (.nil more)
  exact ⟨fun _ => hspells, fun h => absurd trivial h⟩

theorem value (hv : v.Closable) : Spelled v.Finite v.chars [.value v] := by
  intro more hmore
  refine ⟨fun hfinite => (symbol (s := .value v) ⟨hv, hfinite⟩ more hmore).1 trivial, ?_⟩
  intro hfinite
  cases v with
  | float x =>
    have hx : x.isFinite = false := by simpa [Value.Finite] using hfinite
    obtain ⟨e, he⟩ := readToken_floatChars_of_not_isFinite hx more
    have hchars : (Value.float x).chars = floatChars x := rfl
    refine ⟨[], _, e, .nil _, ?_⟩
    rw [hchars, skipBlanks_floatChars hx]
    exact he
  | _ => exact absurd trivial hfinite

theorem closeParen (more : List Char) : Spells (')' :: more) [.closeParen] more :=
  .cons (n := 1) rfl nofun (.nil more)

theorem group (h : Spelled p cs ss) :
    Spelled p ('(' :: (cs ++ [')'])) (.openParen :: (ss ++ [.closeParen])) := by
  intro more hmore
  have hopen : ∀ cs, Spells ('(' :: cs) [.openParen] cs :=
    fun cs => .cons (n := 1) rfl nofun (.nil cs)
  have hinner := h (')' :: more) (ends_cons rfl more)
  have htext : '(' :: (cs ++ [')']) ++ more = '(' :: (cs ++ ')' :: more) := by simp
  rw [htext]
  constructor
  · intro hp
    exact (hopen _).append ((hinner.1 hp).append (closeParen more))
  · intro hp
    exact (hopen _).refused (hinner.2 hp)

theorem negated (h : Spelled p cs ss) :
    Spelled p ('!' :: '(' :: (cs ++ [')'])) (.not :: .openParen :: (ss ++ [.closeParen])) := by
  intro more hmore
  have hnot : ∀ cs, Spells ('!' :: '(' :: cs) [.not] ('(' :: cs) :=
    fun cs => .cons (n := 1) rfl nofun (.nil _)
  have hinner := h.group more hmore
  constructor
  · intro hp
    exact (hnot _).append (hinner.1 hp)
  · intro hp
    exact (hnot _).refused (hinner.2 hp)

end Spelled

theorem Simple.yield_ne_nil (s : Simple) : s.yield ≠ [] := by
  cases s <;> exact List.cons_ne_nil _ _

theorem Conjunction.yield_ne_nil (c : Conjunction) : c.yield ≠ [] := by
  cases c with
  | single s => exact s.yield_ne_nil
  | more c s => exact List.append_ne_nil_of_right_ne_nil _ (List.cons_ne_nil _ _)

namespace Expr

/-- Every text in the tree has a literal. -/
def Closable (e : Expr) : Prop := ∀ v ∈ e.values, v.Closable

/-- No number in the tree is infinite or none. -/
def Finite (e : Expr) : Prop := ∀ v ∈ e.values, v.Finite

theorem finite_logical (span : Span) (op : Connective) (l r : Expr) :
    (logical span op l r).Finite ↔ l.Finite ∧ True ∧ r.Finite := by
  simp [Finite, values, or_imp, forall_and]

theorem finite_comparison (span : Span) (op : Operator) (l r : Operand) :
    (comparison span op l r).Finite ↔ l.value.Finite ∧ True ∧ r.value.Finite := by
  simp [Finite, values]

theorem needsParens_or_left (e : Expr) : e.needsParens .or false = false := by
  cases e with
  | logical _ op _ _ => cases op <;> rfl
  | not | comparison => rfl

theorem needsParens_or_right (e : Expr) : e.needsParens .or true = e.needsParens .and false := by
  cases e with
  | logical _ op _ _ => cases op <;> rfl
  | not | comparison => rfl

/-- A tree is spelled as a whole, and with its parentheses on either side of `&&`. -/
theorem spelled_chars (e : Expr) (he : e.Closable) :
    Spelled e.Finite e.chars (Forms.of e).disjunction.yield ∧
    Spelled e.Finite (parenthesize (e.needsParens .and false) e.chars)
      (Forms.of e).conjunction.yield ∧
    Spelled e.Finite (parenthesize (e.needsParens .and true) e.chars)
      (Forms.of e).simple.yield := by
  induction e with
  | not span e ih =>
    have h := (ih he).1.negated
    exact ⟨h, h, h⟩
  | comparison span op l r =>
    have hl := Spelled.value (he l.value List.mem_cons_self)
    have hr := Spelled.value (he r.value (List.mem_cons_of_mem _ List.mem_cons_self))
    have hop := Spelled.symbol (s := .operator op) trivial
    have hpart := hop.spaced hr (List.cons_ne_nil _ _)
    have h := (hl.spaced hpart (List.cons_ne_nil _ _)).congr (finite_comparison span op l r).symm
    exact ⟨h, h, h⟩
  | logical span op l r ihl ihr =>
    obtain ⟨hl, hlconj, -⟩ := ihl fun v hv => he v (List.mem_append_left _ hv)
    obtain ⟨-, hrconj, hrsimple⟩ := ihr fun v hv => he v (List.mem_append_right _ hv)
    have hop := Spelled.symbol (s := .connective op) trivial
    cases op with
    | and =>
      have hpart := hop.spaced hrsimple (Simple.yield_ne_nil _)
      have h := (hlconj.spaced hpart (List.cons_ne_nil _ _)).congr
        (finite_logical span .and l r).symm
      exact ⟨h, h, h.group⟩
    | or =>
      have hpart := hop.spaced hrconj (Conjunction.yield_ne_nil _)
      have h := (hl.spaced hpart (List.cons_ne_nil _ _)).congr (finite_logical span .or l r).symm
      have htext : l.chars ++ ' ' :: (Symbol.chars (.connective .or) ++ ' ' ::
          parenthesize (r.needsParens .and false) r.chars) = (logical span .or l r).chars := by
        rw [chars, needsParens_or_left, needsParens_or_right]
        rfl
      rw [htext] at h
      exact ⟨h, h.group, h.group⟩

end Expr

end TagSieve
