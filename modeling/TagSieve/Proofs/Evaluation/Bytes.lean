import TagSieve.Evaluation

/-! Texts are ordered by their bytes in UTF-8. -/
namespace TagSieve

variable {v w : Nat} {c d : Char}

/-- The bytes of a text. -/
def textBytes (s : String) : List Nat := s.toUTF8.data.toList.map UInt8.toNat

/-- The order of texts by their first different byte. -/
def byteOrder (a b : String) : Ordering := List.compareLex compare (textBytes a) (textBytes b)

/-- The bytes of a code point. -/
def codeBytes (v : Nat) : List Nat :=
  if v ≤ 0x7F then [v]
  else if v ≤ 0x7FF then [v / 64 + 0xC0, v % 64 + 0x80]
  else if v ≤ 0xFFFF then [v / 4096 + 0xE0, v / 64 % 64 + 0x80, v % 64 + 0x80]
  else [v / 262144 + 0xF0, v / 4096 % 64 + 0x80, v / 64 % 64 + 0x80, v % 64 + 0x80]

theorem char_toNat_lt (c : Char) : c.toNat < 0x110000 := by
  have hvalid := c.valid
  simp only [UInt32.isValidChar, Nat.isValidChar] at hvalid
  have hval : c.val.toNat = c.toNat := rfl
  omega

theorem map_toNat_utf8EncodeChar (c : Char) :
    (String.utf8EncodeChar c).map UInt8.toNat = codeBytes c.toNat := by
  have hlimit := char_toNat_lt c
  have hval : c.val.toNat = c.toNat := rfl
  unfold String.utf8EncodeChar codeBytes
  simp only [hval]
  split
  · simp only [List.map_cons, List.map_nil, UInt8.toNat_ofNat', List.cons.injEq, and_true]
    omega
  · split
    · simp only [List.map_cons, List.map_nil, UInt8.toNat_ofNat', List.cons.injEq, and_true]
      omega
    · split
      · simp only [List.map_cons, List.map_nil, UInt8.toNat_ofNat', List.cons.injEq, and_true]
        omega
      · simp only [List.map_cons, List.map_nil, UInt8.toNat_ofNat', List.cons.injEq, and_true]
        omega

theorem textBytes_eq (s : String) : textBytes s = s.toList.flatMap fun c => codeBytes c.toNat := by
  have h : s.toUTF8 = (s.toList.flatMap String.utf8EncodeChar).toByteArray :=
    String.utf8Encode_toList.symm
  rw [textBytes, h, List.data_toByteArray, List.map_flatMap]
  simp only [map_toNat_utf8EncodeChar]

theorem compareLex_append (a s t : List Nat) :
    List.compareLex compare (a ++ s) (a ++ t) = List.compareLex compare s t := by
  induction a with
  | nil => rfl
  | cons x a ih =>
    rw [List.cons_append, List.cons_append, List.compareLex_cons_cons, Nat.compare_eq_eq.mpr rfl]
    exact ih

theorem compareLex_of_le {x y : Nat} {s t : List Nat} (hle : x ≤ y)
    (heq : x = y → List.compareLex compare s t = .lt) :
    List.compareLex compare (x :: s) (y :: t) = .lt := by
  rw [List.compareLex_cons_cons]
  rcases Nat.lt_or_eq_of_le hle with hlt | rfl
  · rw [Nat.compare_eq_lt.mpr hlt]
    rfl
  · rw [Nat.compare_eq_eq.mpr rfl]
    exact heq rfl

theorem compareLex_of_lt {x y : Nat} (h : x < y) (s t : List Nat) :
    List.compareLex compare (x :: s) (y :: t) = .lt :=
  compareLex_of_le (Nat.le_of_lt h) fun heq => absurd heq (Nat.ne_of_lt h)

/-- The smaller code point has the smaller bytes, whatever follows. -/
theorem compareLex_codeBytes (hvw : v < w) (s t : List Nat) :
    List.compareLex compare (codeBytes v ++ s) (codeBytes w ++ t) = .lt := by
  -- A longer code starts with a larger byte; codes of one length differ in a digit to base 64.
  by_cases hw1 : w ≤ 0x7F
  · have hv1 : v ≤ 0x7F := by omega
    rw [codeBytes, codeBytes, if_pos hv1, if_pos hw1]
    exact compareLex_of_lt hvw _ _
  by_cases hw2 : w ≤ 0x7FF
  · rw [codeBytes, codeBytes, if_neg hw1, if_pos hw2]
    split
    · exact compareLex_of_lt (by omega) _ _
    · rw [if_pos (by omega)]
      refine compareLex_of_le (by omega) fun h => ?_
      exact compareLex_of_lt (by omega) _ _
  by_cases hw3 : w ≤ 0xFFFF
  · rw [codeBytes, codeBytes, if_neg hw1, if_neg hw2, if_pos hw3]
    split
    · exact compareLex_of_lt (by omega) _ _
    · split
      · exact compareLex_of_lt (by omega) _ _
      · rw [if_pos (by omega)]
        refine compareLex_of_le (by omega) fun h => ?_
        refine compareLex_of_le (by omega) fun h' => ?_
        exact compareLex_of_lt (by omega) _ _
  · rw [codeBytes, codeBytes, if_neg hw1, if_neg hw2, if_neg hw3]
    split
    · exact compareLex_of_lt (by omega) _ _
    · split
      · exact compareLex_of_lt (by omega) _ _
      · split
        · exact compareLex_of_lt (by omega) _ _
        · refine compareLex_of_le (by omega) fun h => ?_
          refine compareLex_of_le (by omega) fun h' => ?_
          refine compareLex_of_le (by omega) fun h'' => ?_
          exact compareLex_of_lt (by omega) _ _

theorem codeBytes_ne_nil (v : Nat) : codeBytes v ≠ [] := by
  unfold codeBytes
  split
  · exact List.cons_ne_nil _ _
  · split
    · exact List.cons_ne_nil _ _
    · split <;> exact List.cons_ne_nil _ _

/-- Characters and bytes order texts alike. -/
theorem Domain.compareText_eq (a b : String) : Domain.compareText a b = byteOrder a b := by
  rw [byteOrder, textBytes_eq, textBytes_eq, Domain.compareText]
  generalize a.toList = s
  generalize b.toList = t
  induction s generalizing t with
  | nil =>
    cases t with
    | nil => rfl
    | cons d t =>
      rw [List.flatMap_nil, List.flatMap_cons]
      obtain ⟨x, xs, hx⟩ := List.exists_cons_of_ne_nil (codeBytes_ne_nil d.toNat)
      rw [hx]
      rfl
  | cons c s ih =>
    cases t with
    | nil =>
      rw [List.flatMap_nil, List.flatMap_cons]
      obtain ⟨x, xs, hx⟩ := List.exists_cons_of_ne_nil (codeBytes_ne_nil c.toNat)
      rw [hx]
      rfl
    | cons d t =>
      rw [List.compareLex_cons_cons, List.flatMap_cons, List.flatMap_cons]
      rcases Nat.lt_trichotomy c.toNat d.toNat with hlt | heq | hgt
      · rw [Nat.compare_eq_lt.mpr hlt, compareLex_codeBytes hlt]
        rfl
      · rw [Nat.compare_eq_eq.mpr heq, heq, compareLex_append]
        exact ih t
      · rw [Nat.compare_eq_gt.mpr hgt, @Std.OrientedCmp.eq_swap _ (List.compareLex compare),
          compareLex_codeBytes hgt]
        rfl

end TagSieve
