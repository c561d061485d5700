import TagSieve.Unicode.Folding

/-! Control characters have no cases. What avoids a code point still avoids it after sets are joined,
and no case of a character lies below the letters. -/
namespace TagSieve.Unicode

variable {row : CaseRow} {r s : Ranges} {n low high : Nat} {c : Char} {unicode : Bool}

namespace Ranges

/-- No range holds the code point. -/
def Avoids (n : Nat) (r : Ranges) : Prop := ∀ p ∈ r, p.2 < n ∨ n < p.1

theorem Avoids.covers (h : r.Avoids n) : r.covers n = false := by
  rw [← Bool.not_eq_true]
  intro hcovers
  obtain ⟨p, hp, hlow, hhigh⟩ := exists_of_covers hcovers
  have hout := h p hp
  omega

theorem Avoids.absorb (hfirst : high < n ∨ n < low) (h : r.Avoids n) :
    (absorb low high r).Avoids n := by
  induction r generalizing low high with
  | nil => exact List.forall_mem_singleton.mpr hfirst
  | cons q rest ih =>
    obtain ⟨a, b⟩ := q
    obtain ⟨hq, hrest⟩ := List.forall_mem_cons.mp h
    rw [Ranges.absorb]
    split
    · exact ih (by omega) hrest
    · exact List.forall_mem_cons.mpr ⟨hfirst, ih hq hrest⟩

theorem Avoids.coalesce (h : r.Avoids n) : r.coalesce.Avoids n := by
  cases r with
  | nil => exact nofun
  | cons p rest =>
    obtain ⟨hp, hrest⟩ := List.forall_mem_cons.mp h
    exact .absorb hp hrest

theorem Avoids.ofPairs (h : r.Avoids n) : (ofPairs r).Avoids n :=
  .coalesce fun p hp => h p (List.mem_mergeSort.mp hp)

theorem Avoids.union (hr : r.Avoids n) (hs : s.Avoids n) : (r.union s).Avoids n :=
  .coalesce fun p hp => (List.mem_merge.mp hp).elim (hr p) (hs p)

end Ranges

theorem CaseRow.avoids_images (h : n < row.apply row.first) (low high : Nat) :
    (row.images low high).Avoids n := by
  have hstart : row.first ≤ row.start low := Nat.le_add_right _ _
  unfold CaseRow.apply at h
  unfold CaseRow.images CaseRow.apply
  dsimp only
  split
  · exact nofun
  · split
    · exact List.forall_mem_singleton.mpr (Or.inr (by dsimp only; omega))
    · intro p hp
      obtain ⟨k, -, rfl⟩ := List.mem_map.mp hp
      exact Or.inr (by dsimp only; omega)

theorem lt_apply_foldingRows : ∀ row ∈ foldingRows, '\n'.toNat < row.apply row.first := by
  decide +kernel

theorem lt_apply_asciiFoldingRows :
    ∀ row ∈ asciiFoldingRows, '\n'.toNat < row.apply row.first := by
  decide +kernel

theorem lt_caseClasses : ∀ k ∈ caseClasses, ∀ m ∈ k, '\n'.toNat < m := by
  decide +kernel

/-- No character but the line feed has it for a case. -/
theorem avoids_lineFeed_withCases (hc : c ≠ '\n') (unicode : Bool) :
    (Ranges.withCases unicode [(c.toNat, c.toNat)]).Avoids '\n'.toNat := by
  have hne : c.toNat ≠ '\n'.toNat := fun h => hc (Char.toNat_inj.mp h)
  refine .union (List.forall_mem_singleton.mpr (by dsimp only; omega)) (.ofPairs ?_)
  intro p hp
  simp only [List.flatMap_cons, List.flatMap_nil, List.append_nil, List.mem_append,
    List.mem_flatMap] at hp
  rcases hp with ⟨row, hrow, himage⟩ | hmember
  · refine CaseRow.avoids_images ?_ _ _ p himage
    cases unicode with
    | true => exact lt_apply_foldingRows row hrow
    | false => exact lt_apply_asciiFoldingRows row hrow
  · cases unicode with
    | true =>
      obtain ⟨k, hk, hp⟩ := List.mem_flatMap.mp hmember
      obtain ⟨m, hm, rfl⟩ := List.mem_map.mp hp
      exact Or.inr (lt_caseClasses k (List.mem_filter.mp hk).1 m hm)
    | false => exact absurd hmember List.not_mem_nil

end TagSieve.Unicode
