import TagSieve.Text.Escaped

/-! Writing a text into a literal and reading it back. Only a text that ends in a backslash has no
literal: its last backslash would escape the end. -/
namespace TagSieve.Escaped

variable {stop : Char → Bool} {c : Char} {t cs rest : List Char}

/-- Texts that a literal can hold. -/
def Closable (t : List Char) : Prop := t.getLast? ≠ some '\\'

instance : Decidable (Closable t) := inferInstanceAs (Decidable (_ ≠ _))

theorem closable_nil : Closable [] := nofun

theorem Closable.tail (h : Closable (c :: t)) : Closable t := by
  cases t with
  | nil => exact closable_nil
  | cons d t => simpa [Closable] using h

theorem Closable.cons {d : Char} (h : Closable (d :: t)) : Closable (c :: d :: t) := by
  simpa [Closable] using h

theorem decode_stop (hc : stop c = true) (cs : List Char) :
    decode stop (c :: cs) = ([], c :: cs) := by
  cases cs <;> simp [decode, hc]

theorem decode_escape (hslash : stop '\\' = false) (hc : stop c = true) (cs : List Char) :
    decode stop ('\\' :: c :: cs) = (c :: (decode stop cs).1, (decode stop cs).2) := by
  simp [decode, hslash, hc]

theorem decode_plain (hc : stop c = false) (h : c = '\\' → ∀ d ∈ cs.head?, stop d = false) :
    decode stop (c :: cs) = (c :: (decode stop cs).1, (decode stop cs).2) := by
  cases cs with
  | nil => simp [decode, hc]
  | cons d cs =>
    have hescape : (c = '\\' && stop d) = false := by
      by_cases hs : c = '\\'
      · simp [h hs d rfl]
      · simp [hs]
    simp [decode, hc, hescape]

theorem text_ne_nil_of_decode (hc : stop c = false) (cs : List Char) :
    (decode stop (c :: cs)).1 ≠ [] := by
  cases cs with
  | nil => simp [decode, hc]
  | cons d cs =>
    simp only [decode, hc, Bool.false_eq_true, if_false]
    split <;> simp

theorem decode_encode (hslash : stop '\\' = false) (hc : stop c = true) (ht : Closable t)
    (rest : List Char) : decode stop (encode stop t ++ c :: rest) = (t, c :: rest) := by
  induction t with
  | nil => exact decode_stop hc rest
  | cons a t ih =>
    have ih := ih ht.tail
    by_cases ha : stop a = true
    · have hcs : encode stop (a :: t) ++ c :: rest = '\\' :: a :: (encode stop t ++ c :: rest) := by
        simp [encode, ha]
      rw [hcs, decode_escape hslash ha, ih]
    · have ha : stop a = false := by simpa using ha
      have hcs : encode stop (a :: t) ++ c :: rest = a :: (encode stop t ++ c :: rest) := by
        simp [encode, ha]
      rw [hcs, decode_plain ha, ih]
      -- A backslash is no escape here: what follows it is another character of the text, written
      -- behind a backslash of its own if it could end the literal.
      rintro rfl d hd
      cases t with
      | nil => exact absurd rfl ht
      | cons b t =>
        cases hb : stop b with
        | true =>
          obtain rfl : '\\' = d := by simpa [encode, hb] using hd
          exact hslash
        | false =>
          obtain rfl : b = d := by simpa [encode, hb] using hd
          exact hb

theorem extent_encode (hslash : stop '\\' = false) (hc : stop c = true) (ht : Closable t)
    (rest : List Char) : extent stop (encode stop t ++ c :: rest) = (encode stop t).length := by
  have h : extent stop (encode stop t ++ c :: rest) + _ = _ := extent_add_length _
  rw [decode_encode hslash hc ht] at h
  simp only [List.length_append] at h
  omega

/-- No literal holds a text that ends in a backslash. -/
theorem closable_of_decode (hslash : stop '\\' = false) (h : decode stop cs = (t, c :: rest)) :
    Closable t := by
  fun_induction decode stop cs generalizing t with
  | case1 => cases h
  | case2 d hd =>
    cases h
    exact closable_nil
  | case3 d hd => cases h
  | case4 d e cs hd =>
    cases h
    exact closable_nil
  | case5 d e cs hd he text rest' heq ih =>
    cases h
    have ih := ih heq
    cases text with
    | nil =>
      intro hlast
      obtain rfl : e = '\\' := by simpa using hlast
      simp [hslash] at he
    | cons b text => exact ih.cons
  | case6 d e cs hd he text rest' heq ih =>
    cases h
    cases text with
    | nil =>
      -- Nothing was read behind `d`, so the literal ends at `e`, which is no escape.
      intro hlast
      obtain rfl : d = '\\' := by simpa using hlast
      cases hend : stop e with
      | true => simp [hend] at he
      | false => exact text_ne_nil_of_decode hend cs (congrArg Prod.fst heq)
    | cons b text => exact (ih heq).cons

theorem decode_append (h : decode stop cs = (t, c :: rest)) (more : List Char) :
    decode stop (cs ++ more) = (t, c :: (rest ++ more)) := by
  fun_induction decode stop cs generalizing t with
  | case1 => cases h
  | case2 d hd =>
    cases h
    exact decode_stop hd _
  | case3 d hd => cases h
  | case4 d e cs hd =>
    cases h
    exact decode_stop hd _
  | case5 d e cs hd he text rest' heq ih =>
    cases h
    simp [decode, hd, he, ih heq]
  | case6 d e cs hd he text rest' heq ih =>
    cases h
    have ih := ih heq
    simp only [List.cons_append] at ih
    simp [decode, hd, he, ih]

theorem extent_append (h : decode stop cs = (t, c :: rest)) (more : List Char) :
    extent stop (cs ++ more) = extent stop cs := by
  have hlong : extent stop (cs ++ more) + _ = _ := extent_add_length _
  have hshort : extent stop cs + _ = _ := extent_add_length _
  rw [decode_append h] at hlong
  rw [h] at hshort
  simp only [List.length_append, List.length_cons] at hlong hshort
  omega

theorem decode_eq_drop (cs : List Char) : (decode stop cs).2 = cs.drop (extent stop cs) := by
  fun_induction decode stop cs with
  | case1 => rfl
  | case2 d hd => simp [extent, hd]
  | case3 d hd => simp [extent, hd]
  | case4 d e cs hd => simp [extent, hd]
  | case5 d e cs hd he text rest' heq ih =>
    simpa [extent, hd, he, heq] using ih
  | case6 d e cs hd he text rest' heq ih =>
    simpa [extent, hd, he, heq] using ih

/-- Where nothing ends a literal, it goes on over the whole text and maybe further. -/
theorem length_le_extent (h : (decode stop cs).2 = []) (more : List Char) :
    cs.length ≤ extent stop (cs ++ more) := by
  fun_induction decode stop cs with
  | case1 => exact Nat.zero_le _
  | case2 | case4 => cases h
  | case3 d hd =>
    cases more with
    | nil => simp [extent, hd]
    | cons e more =>
      rw [List.cons_append, List.nil_append, extent, if_neg hd, List.length_singleton]
      split <;> omega
  | case5 d e cs hd he text rest' heq ih =>
    rw [heq] at ih
    simp only [List.cons_append, extent, hd, he]
    simpa using ih h
  | case6 d e cs hd he text rest' heq ih =>
    rw [heq] at ih
    simp only [List.cons_append, extent, hd, he]
    simpa using ih h

/-- A literal is read the same without the text behind its end. -/
theorem decode_shorten {more : List Char}
    (h : decode stop (cs ++ more) = (t, c :: (rest ++ more))) : decode stop cs = (t, c :: rest) := by
  cases hrest : (decode stop cs).2 with
  | nil =>
    have hextent := length_le_extent hrest more
    have hlen : extent stop (cs ++ more) + _ = _ := extent_add_length (cs ++ more)
    rw [h] at hlen
    simp only [List.length_append, List.length_cons] at hlen
    omega
  | cons d rest' =>
    have hdecode : decode stop cs = ((decode stop cs).1, d :: rest') := Prod.ext rfl hrest
    have hlong := decode_append hdecode more
    rw [h] at hlong
    obtain ⟨htext, rfl, happend⟩ : t = (decode stop cs).1 ∧ c = d ∧ rest ++ more = rest' ++ more := by
      simpa using hlong
    rw [hdecode, ← htext, List.append_cancel_right happend]

end TagSieve.Escaped
