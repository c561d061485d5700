import Mathlib.Data.List.TakeWhile
import Mathlib.Tactic.SplitIfs
import TagSieve.Proofs.Token.Extent

/-! What the readers of literals can return: they take at least one character, and no text within a
literal ends in a backslash. -/
namespace TagSieve

variable {cs rest body : List Char} {s : Symbol} {v : Value} {r : Reading}

/-- Values whose text a literal can hold. -/
def Value.Closable : Value → Prop
  | .string s => Escaped.Closable s.toList
  | .regex p => Escaped.Closable p.source.toList
  | .tag k => Escaped.Closable k.name.toList
  | _ => True

/-- A reading that gives a closable value or an error. -/
def Reading.IsLiteral (r : Reading) : Prop :=
  ∀ s, r.outcome = .ok s → 0 < r.size ∧ ∃ v, s = .value v ∧ v.Closable

namespace Reading.IsLiteral

theorem ok {size : Nat} (hsize : 0 < size) (hv : v.Closable) :
    (Reading.ok (.value v) size rest).IsLiteral := by
  intro s hs
  cases hs
  exact ⟨hsize, v, rfl, hv⟩

theorem fail (cause : LexCause) (start stop size : Nat) (rest : List Char) :
    (Reading.fail cause start stop size rest).IsLiteral := by
  intro s hs
  cases hs

end Reading.IsLiteral

open Reading

theorem Pattern.source_ofSource? {source : String} {i m : Bool} {p : Pattern}
    (h : Pattern.ofSource? source i m = some p) : p.source = source := by
  unfold Pattern.ofSource? at h
  split at h
  · cases h
    rfl
  · cases h

theorem isLiteral_readString (cs : List Char) : (readString cs).IsLiteral := by
  unfold readString
  dsimp only
  split
  next => exact .fail _ _ _ _ _
  next text d rest heq =>
    have htext := Escaped.closable_of_decode rfl heq
    exact .ok (Nat.succ_pos _) (by simpa [Value.Closable] using htext)

theorem isLiteral_readRegex (cs : List Char) : (readRegex cs).IsLiteral := by
  unfold readRegex
  dsimp only
  split
  next => exact .fail _ _ _ _ _
  next text d rest heq =>
    have htext := Escaped.closable_of_decode rfl heq
    split
    · exact .fail _ _ _ _ _
    · split
      next p hp =>
        have hsource := Pattern.source_ofSource? hp
        exact .ok (by omega) (by simpa [Value.Closable, hsource] using htext)
      next => exact .fail _ _ _ _ _

theorem closable_of_numberOf? {negative : Bool} (h : numberOf? negative cs = some v) :
    v.Closable := by
  unfold numberOf? at h
  split at h
  · obtain ⟨n, -, rfl⟩ := Option.map_eq_some_iff.mp h
    trivial
  · split at h
    · cases h
      trivial
    · cases h

theorem isLiteral_readNumberUpTo {value : Option Value} {size : Nat}
    (h : ∀ v, value = some v → 0 < size ∧ v.Closable) :
    (readNumberUpTo value cs size rest).IsLiteral := by
  unfold readNumberUpTo
  dsimp only
  split
  · exact .fail _ _ _ _ _
  · exact .fail _ _ _ _ _
  next v _ => exact .ok (h v rfl).1 (h v rfl).2

theorem isLiteral_readNumber (cs : List Char) : (readNumber cs).IsLiteral := by
  unfold readNumber
  dsimp only
  split
  · apply isLiteral_readNumberUpTo
    rintro v ⟨⟩
    exact ⟨Nat.succ_pos _, trivial⟩
  · apply isLiteral_readNumberUpTo
    intro v hv
    refine ⟨?_, closable_of_numberOf? hv⟩
    cases hdigits : (splitSign cs).2.takeWhile isNumberChar with
    | nil =>
      rw [hdigits] at hv
      simp [numberOf?, integerOf?] at hv
    | cons d ds =>
      rw [List.length_cons]
      omega

theorem isLiteral_readSelected {name : String} (hname : Escaped.Closable name.toList) (start : Nat)
    (cs : List Char) : (readSelected name start cs).IsLiteral := by
  unfold readSelected
  split
  · exact .fail _ _ _ _ _
  · exact .ok (Nat.succ_pos _) hname
  · exact .fail _ _ _ _ _
  · exact .fail _ _ _ _ _

theorem closable_of_isBareNameChar (h : ∀ c ∈ cs, isBareNameChar c = true) :
    Escaped.Closable cs := by
  intro hlast
  have := h '\\' (List.mem_of_getLast? hlast)
  exact absurd this (by decide)

theorem isLiteral_readTagKey (cs : List Char) : (readTagKey cs).IsLiteral := by
  unfold readTagKey
  split
  next inner _ =>
    dsimp only
    split
    next => exact .fail _ _ _ _ _
    next name rest heq =>
      have hname := Escaped.closable_of_decode rfl heq
      exact isLiteral_readSelected (by simpa using hname) _ _
    next name d rest _ heq =>
      have hname := Escaped.closable_of_decode rfl heq
      exact .ok (Nat.succ_pos _) (by simpa [Value.Closable] using hname)
  next =>
    dsimp only
    split
    · exact .fail _ _ _ _ _
    · have hname : Escaped.Closable ((cs.drop 1).takeWhile isBareNameChar) := by
        exact closable_of_isBareNameChar fun c hc => List.mem_takeWhile_imp hc
      exact .ok (by omega) (by simpa [Value.Closable] using hname)

theorem keyword?_eq_some (h : keyword? cs = some v) : cs ≠ [] ∧ v.Closable := by
  unfold keyword? at h
  refine ⟨?_, ?_⟩
  · rintro rfl
    simp at h
  · dsimp only at h
    split_ifs at h <;> cases h <;> trivial

theorem isLiteral_readKeyword (cs : List Char) : (readKeyword cs).IsLiteral := by
  unfold readKeyword
  dsimp only
  split
  next v hv =>
    obtain ⟨hne, hclosable⟩ := keyword?_eq_some hv
    exact .ok (List.length_pos_iff.mpr hne) hclosable
  next => exact .fail _ _ _ _ _

/-- Every token but the end takes something, and its value, if it is one, can be written again. -/
theorem readToken_eq_ok (hs : (readToken cs).outcome = .ok s) :
    (s = .finish ∧ cs = []) ∨
    (s ≠ .start ∧ s ≠ .finish ∧ 0 < (readToken cs).size ∧ ∀ v, s = .value v → v.Closable) := by
  have literal {r : Reading} (h : r.IsLiteral) (hr : r.outcome = .ok s) :
      s ≠ .start ∧ s ≠ .finish ∧ 0 < r.size ∧ ∀ v, s = .value v → v.Closable := by
    obtain ⟨hsize, v, rfl, hv⟩ := h s hr
    refine ⟨nofun, nofun, hsize, ?_⟩
    rintro w ⟨⟩
    exact hv
  have h := atFront_readToken cs
  generalize readToken cs = r at h hs ⊢
  cases h with
  | finish =>
    cases hs
    exact Or.inl ⟨rfl, rfl⟩
  | mark hmark _ _ hn =>
    cases hs
    refine Or.inr ⟨?_, ?_, hn ▸ hmark.length_pos, ?_⟩
    · rintro rfl
      exact hmark
    · rintro rfl
      exact hmark
    · rintro v rfl
      exact hmark.elim
  | string => exact Or.inr (literal (isLiteral_readString _) hs)
  | regex => exact Or.inr (literal (isLiteral_readRegex _) hs)
  | tagKey => exact Or.inr (literal (isLiteral_readTagKey _) hs)
  | number => exact Or.inr (literal (isLiteral_readNumber _) hs)
  | keyword => exact Or.inr (literal (isLiteral_readKeyword _) hs)
  | stuck => cases hs

end TagSieve
