import TagSieve.Unicode.Lowercase

/-! Lowercasing twice. What a character becomes stays as it is, whatever stands around it, so a
lowercase text is its own lowercase form. -/
namespace TagSieve.Unicode

variable {row other : CaseRow} {rows : List CaseRow} {n m : Nat} {c d : Char}
  {cs before : List Char}

namespace CaseRow

/-- Whether a row maps every second code point between images of this one. -/
def interleaves (row other : CaseRow) : Bool :=
  decide (0 < row.apply row.first) && (row.step == 2 || row.first == row.last) &&
    other.step == 2 && (row.apply row.first + other.first) % 2 == 1

/-- Whether an image of this row can be a code point that the other one maps. -/
def meets (row other : CaseRow) : Bool :=
  decide (other.first ≤ row.apply row.last) && decide (row.apply row.first ≤ other.last) &&
    !row.interleaves other

/-- The images of a row are characters. -/
def IsValid (row : CaseRow) : Prop :=
  row.apply row.last < 0xD800 ∨ 0xDFFF < row.apply row.first ∧ row.apply row.last < 0x110000

instance (row : CaseRow) : Decidable row.IsValid := inferInstanceAs (Decidable (_ ∨ _))

theorem maps_iff : row.maps n = true ↔
    row.first ≤ n ∧ n ≤ row.last ∧ (n - row.first) % row.step = 0 := by
  simp [maps, and_assoc]

theorem not_maps_apply (h : row.meets other = false) (hn : row.maps n = true) :
    other.maps (row.apply n) ≠ true := by
  obtain ⟨hfirst, hlast, hstep⟩ := maps_iff.mp hn
  intro hother
  obtain ⟨hlow, hhigh, hgap⟩ := maps_iff.mp hother
  simp only [meets, interleaves, Bool.and_eq_false_iff, Bool.not_eq_false', Bool.and_eq_true,
    Bool.or_eq_true, decide_eq_false_iff_not, decide_eq_true_eq, beq_iff_eq] at h
  unfold apply at h hlow hhigh hgap
  rcases h with (hbelow | habove) | ⟨⟨⟨hpos, hsingle⟩, htwo⟩, hparity⟩
  · omega
  · omega
  · rw [htwo] at hgap
    rcases hsingle with hsame | hsame
    · rw [hsame] at hstep
      omega
    · omega

theorem IsValid.isValidChar (h : row.IsValid) (hn : row.maps n = true) :
    (row.apply n).isValidChar := by
  obtain ⟨hfirst, hlast, -⟩ := maps_iff.mp hn
  unfold IsValid apply at h
  unfold Nat.isValidChar apply
  omega

theorem exists_of_image? (h : CaseRow.image? rows n = some m) :
    ∃ row ∈ rows, row.maps n = true ∧ row.apply n = m := by
  obtain ⟨row, hfind, happly⟩ := Option.map_eq_some_iff.mp h
  have hmaps := List.find?_some (p := fun row : CaseRow => row.maps n) hfind
  exact ⟨row, List.mem_of_find?_eq_some hfind, hmaps, happly⟩

theorem image?_eq_none (h : ∀ row ∈ rows, row.maps n ≠ true) : CaseRow.image? rows n = none := by
  unfold image?
  rw [List.find?_eq_none.mpr h]
  rfl

end CaseRow

/-- The dotted capital I, which no row maps. -/
def dottedRow : CaseRow := ⟨0x130, 0x130, 1, 0⟩

theorem isValid_lowercaseRows : ∀ row ∈ lowercaseRows, row.IsValid := by decide +kernel

/-- No row moves a character to one that is moved again. -/
theorem meets_lowercaseRows : (lowercaseRows.all fun row =>
    (dottedRow :: lowercaseRows).all fun other => !row.meets other) = true := by
  decide +kernel

theorem not_maps_image (hrow : row ∈ lowercaseRows) (hother : other ∈ dottedRow :: lowercaseRows)
    (hn : row.maps n = true) : other.maps (row.apply n) ≠ true := by
  have hrows := List.all_eq_true.mp meets_lowercaseRows row hrow
  have hmeets := List.all_eq_true.mp hrows other hother
  exact CaseRow.not_maps_apply (by simpa using hmeets) hn

/-- A character that lowercasing leaves as it is. -/
def IsLowered (c : Char) : Prop := lowercaseChar c = [c]

instance : DecidablePred IsLowered := fun _ => inferInstanceAs (Decidable (_ = _))

theorem lowered_of_image?_eq_none (hdotted : c ≠ '\u0130')
    (h : CaseRow.image? lowercaseRows c.toNat = none) : IsLowered c := by
  unfold IsLowered lowercaseChar
  rw [if_neg hdotted, h]
  rfl

theorem lowered_image (h : CaseRow.image? lowercaseRows n = some m) : IsLowered (Char.ofNat m) := by
  obtain ⟨row, hrow, hmaps, rfl⟩ := CaseRow.exists_of_image? h
  have hvalid := (isValid_lowercaseRows row hrow).isValidChar hmaps
  have htoNat : (Char.ofNat (row.apply n)).toNat = row.apply n := by
    rw [Char.ofNat, dif_pos hvalid]
    rfl
  apply lowered_of_image?_eq_none
  · intro hdotted
    rw [hdotted] at htoNat
    apply not_maps_image hrow List.mem_cons_self hmaps
    rw [← htoNat]
    rfl
  · rw [htoNat]
    refine CaseRow.image?_eq_none fun other hother => ?_
    exact not_maps_image hrow (List.mem_cons_of_mem _ hother) hmaps

theorem lowered_lowercaseChar (h : d ∈ lowercaseChar c) : IsLowered d := by
  unfold lowercaseChar at h
  split at h
  next =>
    rcases List.mem_cons.mp h with rfl | hdot
    · decide +kernel
    · obtain rfl := List.mem_singleton.mp hdot
      decide +kernel
  next hdotted =>
    cases himage : CaseRow.image? lowercaseRows c.toNat with
    | some m =>
      rw [himage] at h
      obtain rfl := List.mem_singleton.mp h
      exact lowered_image himage
    | none =>
      rw [himage] at h
      obtain rfl := List.mem_singleton.mp h
      exact lowered_of_image?_eq_none hdotted himage

theorem lowered_sigmaForm (before after : List Char) : IsLowered (sigmaForm before after) := by
  unfold sigmaForm
  split <;> decide +kernel

theorem lowered_lowercaseAfter (h : d ∈ lowercaseAfter before cs) : IsLowered d := by
  induction cs generalizing before with
  | nil => cases h
  | cons c rest ih =>
    rcases List.mem_append.mp h with hfirst | hrest
    · split at hfirst
      · obtain rfl := List.mem_singleton.mp hfirst
        exact lowered_sigmaForm _ _
      · exact lowered_lowercaseChar hfirst
    · exact ih hrest

theorem lowercaseAfter_eq_self (h : ∀ c ∈ cs, IsLowered c) : lowercaseAfter before cs = cs := by
  induction cs generalizing before with
  | nil => rfl
  | cons c rest ih =>
    obtain ⟨hc, hrest⟩ := List.forall_mem_cons.mp h
    -- The capital sigma is no character that stays.
    have hsigma : c ≠ 'Σ' := by
      rintro rfl
      exact absurd hc (by decide +kernel)
    rw [lowercaseAfter, if_neg hsigma, hc, ih hrest, List.singleton_append]

@[simp] theorem lowercase_lowercase (s : String) : lowercase (lowercase s) = lowercase s := by
  have hstays : lowercaseAfter [] (lowercase s).toList = (lowercase s).toList := by
    rw [toList_lowercase]
    exact lowercaseAfter_eq_self fun c => lowered_lowercaseAfter
  unfold lowercase at hstays ⊢
  rw [hstays, String.ofList_toList]

end TagSieve.Unicode
