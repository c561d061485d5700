import TagSieve.Proofs.Text.Escaped

/-! Where the literals of a text end and what they hold. A literal ends at the first delimiter with
no backslash right before it. It holds what stands between, without the backslashes right before
delimiters. -/
namespace TagSieve.Escaped

variable {stop : Char → Bool} {c d : Char} {cs raw rest text text' : List Char} {i j j' p : Nat}

/-- A delimiter behind `p` with no backslash right before it. -/
def ClosesAt (d : Char) (cs : List Char) (p j : Nat) : Prop :=
  p < j ∧ cs[j]? = some d ∧ cs[j - 1]? ≠ some '\\'

instance : Decidable (ClosesAt d cs p j) := inferInstanceAs (Decidable (_ ∧ _ ∧ _))

/-- A text without the backslashes that stand right before delimiters. -/
def unescape (d : Char) : List Char → List Char
  | [] => []
  | c :: cs => if c = '\\' ∧ cs.head? = some d then unescape d cs else c :: unescape d cs

/-- The literal that opens at `p` closes at `j` and holds `text`. -/
structure LiteralAt (d : Char) (cs : List Char) (p j : Nat) (text : List Char) : Prop where
  opens : cs[p]? = some d
  closes : ClosesAt d cs p j
  first : ∀ i, ClosesAt d cs p i → j ≤ i
  holds : text = unescape d ((cs.take j).drop (p + 1))

theorem LiteralAt.unique (h : LiteralAt d cs p j text) (h' : LiteralAt d cs p j' text') :
    j = j' ∧ text = text' := by
  have hle := h.first j' h'.closes
  have hle' := h'.first j h.closes
  obtain rfl : j = j' := by omega
  exact ⟨rfl, h.holds.trans h'.holds.symm⟩

theorem stop_of_decode (h : decode stop cs = (text, c :: rest)) : stop c = true := by
  fun_induction decode stop cs generalizing text with
  | case1 | case3 => cases h
  | case2 e he | case4 e _ _ he =>
    cases h
    exact he
  | case5 _ _ _ _ _ _ _ heq ih | case6 _ _ _ _ _ _ _ heq ih =>
    cases h
    exact ih heq

/-- What is read goes no further than any end with no backslash before it. -/
theorem extent_le (hc : stop c = true) (hraw : Closable raw) (h : cs = raw ++ c :: rest) :
    extent stop cs ≤ raw.length := by
  fun_induction extent stop cs generalizing raw with
  | case1 | case2 | case4 => exact Nat.zero_le _
  | case3 e he =>
    cases raw with
    | nil =>
      obtain ⟨rfl, -⟩ := List.cons.inj h
      exact absurd hc he
    | cons => exact Nat.succ_pos _
  | case5 e f cs he hf ih =>
    obtain ⟨hslash', hf⟩ : e = '\\' ∧ stop f = true := by simpa using hf
    rcases raw with - | ⟨a, - | ⟨b, raw⟩⟩
    · obtain ⟨rfl, -⟩ := List.cons.inj h
      exact absurd hc he
    · obtain ⟨rfl, -⟩ := List.cons.inj h
      exact absurd (congrArg some hslash') hraw
    · obtain ⟨-, h⟩ := List.cons.inj h
      obtain ⟨-, h⟩ := List.cons.inj h
      have hle := ih hraw.tail.tail h
      simp only [List.length_cons]
      omega
  | case6 e f cs he hf ih =>
    cases raw with
    | nil =>
      obtain ⟨rfl, -⟩ := List.cons.inj h
      exact absurd hc he
    | cons a raw =>
      obtain ⟨-, h⟩ := List.cons.inj h
      exact Nat.succ_le_succ (ih hraw.tail h)

/-- No backslash stands right before the end of what is read. -/
theorem closable_take_extent (hslash : stop '\\' = false) (h : (decode stop cs).2 ≠ []) :
    Closable (cs.take (extent stop cs)) := by
  fun_induction extent stop cs with
  | case1 | case2 | case4 => exact closable_nil
  | case3 e he => simp [decode, he] at h
  | case5 e f cs he hf ih =>
    have ih := ih (by simpa [decode, he, hf] using h)
    have hne : f ≠ '\\' := by
      rintro rfl
      simp [hslash] at hf
    rw [List.take_succ_cons, List.take_succ_cons]
    cases hcs : cs.take (extent stop cs) with
    | nil => simpa [Closable] using hne
    | cons => exact (hcs ▸ ih).cons.cons
  | case6 e f cs he hf ih =>
    have ih := ih (by simpa [decode, he, hf] using h)
    rw [List.take_succ_cons]
    cases hcs : (f :: cs).take (extent stop (f :: cs)) with
    | cons => exact (hcs ▸ ih).cons
    | nil =>
      -- Nothing else is read, so `f` ends the literal and `e` does not escape it.
      have hfirst : extent stop (f :: cs) = 0 := by simpa using hcs
      have hrest : (decode stop (f :: cs)).2 = f :: cs := by
        rw [decode_eq_drop, hfirst, List.drop_zero]
      have hstop : stop f = true := stop_of_decode (Prod.ext rfl hrest)
      simpa [Closable, hstop] using hf

/-- What is read loses the backslashes right before delimiters, and nothing else. -/
theorem text_decode (hd : d ≠ '\\') (cs : List Char) :
    (decode (· == d) cs).1 = unescape d (cs.take (extent (· == d) cs)) := by
  fun_induction extent (· == d) cs with
  | case1 => rfl
  | case2 e he | case3 e he | case4 e _ _ he => simp [decode, he, unescape]
  | case5 e f cs he hf ih =>
    obtain ⟨rfl, rfl⟩ : e = '\\' ∧ f = d := by simpa using hf
    rw [decode_escape (by simpa using he) hf, ih]
    simp [unescape, hd]
  | case6 e f cs he hf ih =>
    have hplain : e = '\\' → f ≠ d := by simpa using hf
    have hkept : ¬(e = '\\' ∧ ((f :: cs).take (extent (· == d) (f :: cs))).head? = some d) := by
      rintro ⟨hslash, hhead⟩
      rw [List.head?_take] at hhead
      split at hhead
      · cases hhead
      · exact hplain hslash (Option.some.inj hhead)
    have hescape : e = '\\' → ∀ g ∈ (f :: cs).head?, (g == d) = false := by
      rintro hslash g hg
      obtain rfl : f = g := Option.some.inj hg
      simpa using hplain hslash
    rw [decode_plain (by simpa using he) hescape, ih, List.take_succ_cons, unescape, if_neg hkept]

theorem drop_eq_cons (h : cs[i]? = some d) : cs.drop i = d :: cs.drop (i + 1) := by
  obtain ⟨hi, rfl⟩ := List.getElem?_eq_some_iff.mp h
  exact List.drop_eq_getElem_cons hi

theorem closesAt_iff (hd : d ≠ '\\') (hopens : cs[p]? = some d) (i : Nat) :
    ClosesAt d cs p (p + 1 + i) ↔
      (cs.drop (p + 1))[i]? = some d ∧ Closable ((cs.drop (p + 1)).take i) := by
  unfold ClosesAt Closable
  rw [List.getElem?_drop, List.getLast?_take]
  cases i with
  | zero => simp [hopens, hd]
  | succ i =>
    have hpositions : p < p + 1 + (i + 1) ∧ p + 1 + (i + 1) - 1 = p + 1 + i := by omega
    rw [hpositions.2, if_neg (Nat.succ_ne_zero i), Nat.add_sub_cancel, List.getElem?_drop]
    simp only [hpositions.1, true_and]
    refine and_congr_right fun hat => ?_
    obtain ⟨hlt, -⟩ := List.getElem?_eq_some_iff.mp hat
    have hbefore : p + 1 + i < cs.length := by omega
    rw [List.getElem?_eq_getElem hbefore, Option.some_or]

theorem extent_le_of_closesAt (hd : d ≠ '\\') (hopens : cs[p]? = some d) (h : ClosesAt d cs p j) :
    p + 1 + extent (· == d) (cs.drop (p + 1)) ≤ j := by
  obtain ⟨i, rfl⟩ : ∃ i, j = p + 1 + i := by
    have hlt := h.1
    exact ⟨j - (p + 1), by omega⟩
  obtain ⟨hcloses, hraw⟩ := (closesAt_iff hd hopens i).mp h
  have hsplit : cs.drop (p + 1) =
      (cs.drop (p + 1)).take i ++ d :: (cs.drop (p + 1)).drop (i + 1) := by
    rw [← drop_eq_cons hcloses, List.take_append_drop]
  have hle : extent (· == d) _ ≤ _ := extent_le (beq_self_eq_true d) hraw hsplit
  rw [List.length_take] at hle
  omega

/-- A literal that is read to its end holds what was read. -/
theorem literalAt_of_decode (hd : d ≠ '\\') (hopens : cs[p]? = some d)
    (h : decode (· == d) (cs.drop (p + 1)) = (text, c :: rest)) :
    LiteralAt d cs p (p + 1 + extent (· == d) (cs.drop (p + 1))) text := by
  have hslash : ('\\' == d) = false := by simpa using hd.symm
  obtain rfl : c = d := by simpa using stop_of_decode h
  have hrest : (decode (· == c) (cs.drop (p + 1))).2 = _ := decode_eq_drop _
  rw [h] at hrest
  refine ⟨hopens, ?_, ?_, ?_⟩
  · rw [closesAt_iff hd hopens]
    constructor
    · rw [← List.head?_drop, ← hrest]
      rfl
    · exact closable_take_extent hslash (by simp [h])
  · intro i hi
    exact extent_le_of_closesAt hd hopens hi
  · have htext := text_decode hd (cs.drop (p + 1))
    rw [h] at htext
    rw [List.drop_take, Nat.add_sub_cancel_left]
    exact htext

/-- A literal without a delimiter to close it is read to the end of the text. -/
theorem decode_of_not_closes (hd : d ≠ '\\') (hopens : cs[p]? = some d)
    (h : ∀ j, ¬ ClosesAt d cs p j) : (decode (· == d) (cs.drop (p + 1))).2 = [] := by
  cases hrest : (decode (· == d) (cs.drop (p + 1))).2 with
  | nil => rfl
  | cons c rest => exact absurd (literalAt_of_decode hd hopens (Prod.ext rfl hrest)).closes (h _)

theorem decode_of_literalAt (hd : d ≠ '\\') (h : LiteralAt d cs p j text) :
    decode (· == d) (cs.drop (p + 1)) = (text, d :: cs.drop (j + 1)) ∧
      p + 1 + extent (· == d) (cs.drop (p + 1)) = j := by
  cases hrest : (decode (· == d) (cs.drop (p + 1))).2 with
  | nil =>
    have hle := extent_le_of_closesAt hd h.opens h.closes
    have hend := length_le_extent hrest []
    rw [List.append_nil, List.length_drop] at hend
    obtain ⟨hlt, -⟩ := List.getElem?_eq_some_iff.mp h.closes.2.1
    omega
  | cons c rest =>
    have hread := literalAt_of_decode hd h.opens (Prod.ext rfl hrest)
    obtain ⟨rfl, rfl⟩ := hread.unique h
    obtain rfl : c = d := by simpa using stop_of_decode (Prod.ext rfl hrest)
    have hdrop : (decode (· == c) (cs.drop (p + 1))).2 = _ := decode_eq_drop _
    rw [hrest, List.drop_drop] at hdrop
    have htail : rest = cs.drop (p + 1 + extent (· == c) (cs.drop (p + 1)) + 1) := by
      rw [← List.tail_drop, ← hdrop, List.tail_cons]
    rw [← htail]
    exact ⟨Prod.ext rfl hrest, rfl⟩

/-- No literal holds a text that ends in a backslash. -/
theorem LiteralAt.closable (hd : d ≠ '\\') (h : LiteralAt d cs p j text) : Closable text := by
  have hslash : ('\\' == d) = false := by simpa using hd.symm
  exact closable_of_decode hslash (decode_of_literalAt hd h).1

/-- A text is what its spelling between delimiters holds, unless its last character escapes the
closing one. -/
theorem literalAt_encode_iff (hd : d ≠ '\\') (before rest : List Char) :
    LiteralAt d (before ++ d :: (encode (· == d) text ++ d :: rest)) before.length
        (before.length + 1 + (encode (· == d) text).length) text ↔ Closable text := by
  refine ⟨fun h => h.closable hd, fun htext => ?_⟩
  have hslash : ('\\' == d) = false := by simpa using hd.symm
  have hopens : (before ++ d :: (encode (· == d) text ++ d :: rest))[before.length]? = some d := by
    simp
  have hbody : (before ++ d :: (encode (· == d) text ++ d :: rest)).drop (before.length + 1) =
      encode (· == d) text ++ d :: rest := by
    simp
  have hdecode : decode (· == d) (encode (· == d) text ++ d :: rest) = (text, d :: rest) :=
    decode_encode hslash (by simp) htext rest
  have hextent : extent (· == d) (encode (· == d) text ++ d :: rest) = _ :=
    extent_encode hslash (by simp) htext rest
  rw [← hbody] at hdecode
  have hliteral := literalAt_of_decode hd hopens hdecode
  rw [hbody, hextent] at hliteral
  exact hliteral

end TagSieve.Escaped
