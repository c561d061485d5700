/-!
Sets of code points as sorted ranges, and case mappings as rows of ranges that move by one
distance.
-/

namespace TagSieve.Unicode

/-- Inclusive ranges of code points in increasing order. -/
abbrev Ranges := List (Nat × Nat)

/-- Whether a code point lies in one of the ranges; the search stops at the first range that
starts above it. -/
def Ranges.covers : Ranges → Nat → Bool
  | [], _ => false
  | (low, high) :: rest, n => decide (low ≤ n) && (decide (n ≤ high) || Ranges.covers rest n)

@[simp] theorem Ranges.covers_nil (n : Nat) : Ranges.covers [] n = false := rfl

theorem Ranges.exists_of_covers {r : Ranges} {n : Nat} (h : r.covers n = true) :
    ∃ p ∈ r, p.1 ≤ n ∧ n ≤ p.2 := by
  induction r with
  | nil => simp at h
  | cons p rest ih =>
    obtain ⟨low, high⟩ := p
    simp only [Ranges.covers, Bool.and_eq_true, Bool.or_eq_true, decide_eq_true_eq] at h
    obtain ⟨hlow, hhigh | hrest⟩ := h
    · exact ⟨(low, high), by simp, hlow, hhigh⟩
    · obtain ⟨q, hq, hb⟩ := ih hrest
      exact ⟨q, by simp [hq], hb⟩

/-- The code points `first, first + step, …, last`, each mapped to the one `shift` further on. -/
structure CaseRow where
  first : Nat
  last : Nat
  step : Nat
  shift : Int

/-- Whether the row maps this code point. -/
def CaseRow.maps (row : CaseRow) (n : Nat) : Bool :=
  decide (row.first ≤ n) && decide (n ≤ row.last) && decide ((n - row.first) % row.step = 0)

/-- The image of a code point that the row maps. -/
def CaseRow.apply (row : CaseRow) (n : Nat) : Nat :=
  ((n : Int) + row.shift).toNat

/-- The image of a code point under the first row that maps it. -/
def CaseRow.image? (rows : List CaseRow) (n : Nat) : Option Nat :=
  (rows.find? (·.maps n)).map (·.apply n)

end TagSieve.Unicode
