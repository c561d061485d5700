import TagSieve.Json.Parser

/-! The text of a value made of strings, arrays and objects reads back as that value, on one line
and indented. -/
namespace TagSieve.Json

variable {c : Char} {cs text gap close colon : List Char} {fuel depth n : Nat} {a b key : String}
  {v : Json} {items : List Json} {members before : List (String × Json)} {first : Bool}

theorem hexDigit?_digitChar : ∀ n < 16, hexDigit? (Nat.digitChar n) = some n := by decide

theorem readUnits_hexPair (h : c.toNat < 32) (rest : List Char) :
    readUnits ('0' :: '0' :: (hexPair c.toNat ++ rest)) = .ok (c, rest) := by
  have hhigh := hexDigit?_digitChar (c.toNat / 16) (by omega)
  have hlow := hexDigit?_digitChar (c.toNat % 16) (by omega)
  have hzero : hexDigit? '0' = some 0 := by decide
  have hhex : readHex ('0' :: '0' :: (hexPair c.toNat ++ rest)) = .ok (c.toNat, rest) := by
    have hvalue : 16 * (c.toNat / 16) + c.toNat % 16 = c.toNat := by omega
    simp [readHex, hexPair, hzero, hhigh, hlow, hvalue]
  have hsurrogate : ¬ (0xDC00 ≤ c.toNat ∧ c.toNat ≤ 0xDFFF) := by omega
  have hleading : ¬ (0xD800 ≤ c.toNat ∧ c.toNat ≤ 0xDBFF) := by omega
  simp only [readUnits, hhex, Except.bind, hsurrogate, hleading, if_false, Char.ofNat_toNat]

/-- A character is written as an escape that stands for it, or as itself. -/
theorem escapeChar_cases (c : Char) :
    (∃ e, escapeChar c = '\\' :: e ∧ ∀ rest, readEscape (e ++ rest) = .ok (c, rest)) ∨
      (escapeChar c = [c] ∧ c ≠ '"' ∧ c ≠ '\\' ∧ 32 ≤ c.toNat) := by
  unfold escapeChar
  split
  all_goals try exact Or.inl ⟨_, rfl, fun _ => rfl⟩
  by_cases hcontrol : c.toNat < 32
  · left
    refine ⟨'u' :: '0' :: '0' :: hexPair c.toNat, if_pos hcontrol, ?_⟩
    intro rest
    exact readUnits_hexPair hcontrol rest
  · right
    exact ⟨if_neg hcontrol, by assumption, by assumption, by omega⟩

theorem length_le_escaped (cs : List Char) : cs.length ≤ (cs.flatMap escapeChar).length := by
  induction cs with
  | nil => simp
  | cons c cs ih =>
    rcases escapeChar_cases c with ⟨e, he, -⟩ | ⟨he, -⟩
    · simp only [List.flatMap_cons, he, List.length_append, List.length_cons]
      omega
    · simp only [List.flatMap_cons, he, List.length_append, List.length_cons]
      omega

theorem readChars_escaped (h : cs.length < fuel) (rest : List Char) :
    readChars fuel (cs.flatMap escapeChar ++ '"' :: rest) = .ok (cs, rest) := by
  induction cs generalizing fuel with
  | nil =>
    obtain ⟨fuel, rfl⟩ := Nat.exists_eq_succ_of_ne_zero (Nat.ne_of_gt h)
    rfl
  | cons c cs ih =>
    obtain ⟨fuel, rfl⟩ := Nat.exists_eq_succ_of_ne_zero (Nat.ne_of_gt (Nat.zero_lt_of_lt h))
    have hcs := @ih fuel (by simpa using h)
    rw [List.flatMap_cons, List.append_assoc]
    rcases escapeChar_cases c with ⟨e, he, hread⟩ | ⟨he, hquote, hslash, hcontrol⟩
    · rw [he, List.cons_append]
      simp [readChars, hread, Except.bind, hcs, Except.map]
    · have hprintable : ¬ c.toNat < 32 := by omega
      rw [he, List.singleton_append]
      simp [readChars, hquote, hslash, hprintable, hcs, Except.map]

theorem readString_escaped (s : String) (rest : List Char) :
    readString (s.toList.flatMap escapeChar ++ '"' :: rest) = .ok (s, rest) := by
  have hlength := length_le_escaped s.toList
  unfold readString
  rw [readChars_escaped (by simp only [List.length_append]; omega)]
  simp [Except.map]

/-- Blanks, which may stand between any two tokens. -/
def Blank (cs : List Char) : Prop := ∀ c ∈ cs, isBlank c = true

theorem skipBlanks_append (h : Blank gap) (cs : List Char) :
    skipBlanks (gap ++ cs) = skipBlanks cs :=
  List.dropWhile_append_of_pos h

theorem skipBlanks_cons (h : isBlank c = false) (cs : List Char) : skipBlanks (c :: cs) = c :: cs :=
  List.dropWhile_cons_of_neg (by simp [h])

/-- The text reads as the value whatever stands behind it, as long as `n` brackets may be opened. -/
structure Reads (n : Nat) (text : List Char) (v : Json) : Prop where
  head : ∃ c cs, text = c :: cs ∧ isBlank c = false ∧ c ≠ ']'
  read : ∀ fuel rest, 3 * text.length ≤ fuel →
    readValue fuel (n + 1) (text ++ rest) = .ok (v, rest)

theorem Reads.length_pos (h : Reads n text v) : 0 < text.length := by
  obtain ⟨c, cs, rfl, -⟩ := h.head
  simp

theorem readValue_blanks (h : Blank gap) (fuel depth : Nat) (cs : List Char) :
    readValue fuel depth (gap ++ cs) = readValue fuel depth cs := by
  cases fuel with
  | zero => simp only [readValue]
  | succ fuel => simp only [readValue, skipBlanks_append h]

theorem reads_string (n : Nat) (s : String) : Reads n (stringChars s) (.string s) := by
  refine ⟨⟨'"', _, rfl, by decide, by decide⟩, ?_⟩
  intro fuel rest hfuel
  have hlength : 0 < (stringChars s).length := by simp [stringChars]
  obtain ⟨fuel, rfl⟩ : ∃ k, fuel = k + 1 := ⟨fuel - 1, by omega⟩
  have htext : stringChars s ++ rest = '"' :: (s.toList.flatMap escapeChar ++ '"' :: rest) := by
    simp [stringChars]
  rw [htext]
  have hquote : isBlank '"' = false := by decide
  simp [readValue, skipBlanks_cons hquote, readString_escaped, Except.map]

theorem readItems_end (fuel depth : Nat) (first : Bool) (h : Blank close) (rest : List Char) :
    readItems (fuel + 1) depth first (close ++ ']' :: rest) = .ok ([], rest) := by
  have hbracket : isBlank ']' = false := by decide
  simp [readItems, skipBlanks_append h, skipBlanks_cons hbracket]

theorem readItem_append (h : Reads n text v) (hfuel : 3 * text.length ≤ fuel) (rest : List Char) :
    readItem (fuel + 1) (n + 1) (text ++ rest) =
      (readItems fuel (n + 1) false rest).map fun (vs, rest) => (v :: vs, rest) := by
  simp [readItem, h.read fuel rest hfuel, Except.bind]

theorem readItems_first (h : Reads n text v) (hgap : Blank gap) (fuel : Nat) (rest : List Char) :
    readItems (fuel + 1) (n + 1) true (gap ++ (text ++ rest)) =
      readItem fuel (n + 1) (text ++ rest) := by
  obtain ⟨c, cs, rfl, hblank, hc⟩ := h.head
  rw [List.cons_append]
  simp [readItems, skipBlanks_append hgap, skipBlanks_cons hblank]

theorem readItems_next (h : Reads n text v) (hgap : Blank gap) (fuel : Nat) (rest : List Char) :
    readItems (fuel + 1) (n + 1) false (',' :: (gap ++ (text ++ rest))) =
      readItem fuel (n + 1) (text ++ rest) := by
  obtain ⟨c, cs, rfl, hblank, hc⟩ := h.head
  have hcomma : isBlank ',' = false := by decide
  rw [List.cons_append]
  simp [readItems, skipBlanks_append hgap, skipBlanks_cons hcomma, skipBlanks_cons hblank, hc]

/-- The items behind the first one, each behind a comma, and the end of the array. -/
def itemsRest (gap close : List Char) (text : Json → List Char) (items : List Json) : List Char :=
  items.flatMap (fun v => ',' :: (gap ++ text v)) ++ (close ++ [']'])

theorem itemsRest_cons (gap close : List Char) (text : Json → List Char) (v : Json)
    (items : List Json) (rest : List Char) :
    itemsRest gap close text (v :: items) ++ rest =
      ',' :: (gap ++ (text v ++ (itemsRest gap close text items ++ rest))) := by
  simp [itemsRest]

theorem readItems_rest {text : Json → List Char} (hgap : Blank gap) (hclose : Blank close)
    (h : ∀ v ∈ items, Reads n (text v) v) (fuel : Nat) (rest : List Char)
    (hfuel : 3 * (itemsRest gap close text items).length ≤ fuel) :
    readItems fuel (n + 1) false (itemsRest gap close text items ++ rest) = .ok (items, rest) := by
  induction items generalizing fuel with
  | nil =>
    have hlength : 0 < (itemsRest gap close text []).length := by simp [itemsRest]
    obtain ⟨fuel, rfl⟩ : ∃ k, fuel = k + 1 := ⟨fuel - 1, by omega⟩
    have hend := readItems_end fuel (n + 1) false hclose rest
    simpa [itemsRest] using hend
  | cons v items ih =>
    obtain ⟨hv, hitems⟩ := List.forall_mem_cons.mp h
    have hsplit := congrArg List.length (itemsRest_cons gap close text v items [])
    simp only [List.append_nil, List.length_cons, List.length_append] at hsplit
    -- The comma alone pays for the two calls between one item and the next.
    obtain ⟨fuel, rfl⟩ : ∃ k, fuel = k + 2 := ⟨fuel - 2, by omega⟩
    have hrest := ih hitems fuel (by omega)
    rw [itemsRest_cons, readItems_next hv hgap, readItem_append hv (by omega), hrest]
    rfl

theorem commas_cons (t : List Char) (ts : List (List Char)) :
    commas (t :: ts) = t ++ ts.flatMap fun t => ',' :: t := by
  induction ts generalizing t with
  | nil => simp [commas]
  | cons t' ts ih => simp [commas, ih]

theorem readValue_array (fuel n : Nat) (cs : List Char) :
    readValue (fuel + 1) (n + 2) ('[' :: cs) =
      (readItems fuel (n + 1) true cs).map fun (vs, rest) => (.array vs, rest) := by
  have hbracket : isBlank '[' = false := by decide
  simp [readValue, skipBlanks_cons hbracket]

theorem reads_array {text : Json → List Char} (hgap : Blank gap) (hclose : Blank close)
    (h : ∀ v ∈ items, Reads n (text v) v) :
    Reads (n + 1) ('[' :: (commas (items.map fun v => gap ++ text v) ++ (close ++ [']'])))
      (.array items) := by
  refine ⟨⟨'[', _, rfl, by decide, by decide⟩, ?_⟩
  intro fuel rest hfuel
  simp only [List.length_cons, List.length_append, List.length_nil] at hfuel
  obtain ⟨fuel, rfl⟩ : ∃ k, fuel = k + 3 := ⟨fuel - 3, by omega⟩
  rw [List.cons_append, readValue_array]
  cases items with
  | nil =>
    have hend := readItems_end (fuel + 1) (n + 1) true hclose rest
    simp [commas, hend, Except.map]
  | cons v items =>
    obtain ⟨hv, hitems⟩ := List.forall_mem_cons.mp h
    have htext : commas ((v :: items).map fun v => gap ++ text v) ++ (close ++ [']']) =
        gap ++ (text v ++ itemsRest gap close text items) := by
      simp [commas_cons, itemsRest, List.flatMap_map]
    have hlength := congrArg List.length htext
    simp only [List.length_append, List.length_cons, List.length_nil] at hlength
    have hpos := hv.length_pos
    have hrest := readItems_rest hgap hclose hitems fuel rest (by omega)
    rw [htext, List.append_assoc, List.append_assoc, readItems_first hv hgap,
      readItem_append hv (by omega), hrest]
    rfl

theorem keyBefore_asymm (h : keyBefore a b = true) : keyBefore b a = false := by
  have horder : Std.OrientedCmp fun c d : Char => compare c.toNat d.toNat :=
    inferInstanceAs (Std.OrientedCmp (compareOn Char.toNat))
  have hlt : List.compareLex (fun c d : Char => compare c.toNat d.toNat) a.toList b.toList = .lt := by
    simpa [keyBefore] using h
  have hgt : List.compareLex (fun c d : Char => compare c.toNat d.toNat) b.toList a.toList = .gt :=
    Std.OrientedCmp.gt_iff_lt.mpr hlt
  simp [keyBefore, hgt]

theorem insertMember_append (h : ∀ m ∈ before, keyBefore m.1 key = true) (v : Json) :
    insertMember key v before = before ++ [(key, v)] := by
  induction before with
  | nil => rfl
  | cons m before ih =>
    obtain ⟨hm, hbefore⟩ := List.forall_mem_cons.mp h
    have hafter := keyBefore_asymm hm
    have hne : m.1 ≠ key := by
      intro heq
      rw [heq] at hm hafter
      exact Bool.false_ne_true (hafter.symm.trans hm)
    simp [insertMember, hne, hafter, ih hbefore]

/-- The text of a member, with blanks behind its colon. -/
def memberText (colon : List Char) (text : Json → List Char) (m : String × Json) : List Char :=
  stringChars m.1 ++ ':' :: (colon ++ text m.2)

theorem memberText_append (colon : List Char) (text : Json → List Char) (m : String × Json)
    (rest : List Char) : memberText colon text m ++ rest =
      '"' :: (m.1.toList.flatMap escapeChar ++ '"' :: ':' :: (colon ++ (text m.2 ++ rest))) := by
  simp [memberText, stringChars]

theorem readMembers_end (fuel depth : Nat) (first : Bool) (before : List (String × Json))
    (h : Blank close) (rest : List Char) :
    readMembers (fuel + 1) depth first before (close ++ '\x7d' :: rest) = .ok (before, rest) := by
  have hbracket : isBlank '\x7d' = false := by decide
  simp [readMembers, skipBlanks_append h, skipBlanks_cons hbracket]

section Members

variable {text : Json → List Char} {m : String × Json}

theorem readMembers_first (colon : List Char) (text : Json → List Char) (m : String × Json)
    (before : List (String × Json)) (hgap : Blank gap) (fuel depth : Nat) (rest : List Char) :
    readMembers (fuel + 1) depth true before (gap ++ (memberText colon text m ++ rest)) =
      readMember fuel depth before (memberText colon text m ++ rest) := by
  have hquote : isBlank '"' = false := by decide
  simp [readMembers, memberText_append, skipBlanks_append hgap, skipBlanks_cons hquote]

theorem readMembers_next (colon : List Char) (text : Json → List Char) (m : String × Json)
    (before : List (String × Json)) (hgap : Blank gap) (fuel depth : Nat) (rest : List Char) :
    readMembers (fuel + 1) depth false before (',' :: (gap ++ (memberText colon text m ++ rest))) =
      readMember fuel depth before (memberText colon text m ++ rest) := by
  have hcomma : isBlank ',' = false := by decide
  have hquote : isBlank '"' = false := by decide
  simp [readMembers, memberText_append, skipBlanks_append hgap, skipBlanks_cons hcomma,
    skipBlanks_cons hquote]

theorem readMember_append (hcolon : Blank colon) (h : Reads n (text m.2) m.2)
    (hfuel : 3 * (text m.2).length ≤ fuel) (before : List (String × Json)) (rest : List Char) :
    readMember (fuel + 1) (n + 1) before (memberText colon text m ++ rest) =
      readMembers fuel (n + 1) false (insertMember m.1 m.2 before) rest := by
  have hmark : isBlank ':' = false := by decide
  simp [readMember, memberText_append, readString_escaped, Except.bind, skipBlanks_cons hmark,
    readValue_blanks hcolon, h.read fuel rest hfuel]

/-- The members behind the first one, each behind a comma, and the end of the object. -/
def membersRest (gap colon close : List Char) (text : Json → List Char)
    (members : List (String × Json)) : List Char :=
  members.flatMap (fun m => ',' :: (gap ++ memberText colon text m)) ++ (close ++ ['\x7d'])

theorem membersRest_cons (gap colon close : List Char) (text : Json → List Char)
    (m : String × Json) (members : List (String × Json)) (rest : List Char) :
    membersRest gap colon close text (m :: members) ++ rest =
      ',' :: (gap ++ (memberText colon text m ++
        (membersRest gap colon close text members ++ rest))) := by
  simp [membersRest]

/-- The keys of the members stand in their order. -/
def Ordered (members : List (String × Json)) : Prop :=
  members.Pairwise fun m m' => keyBefore m.1 m'.1 = true

theorem readMembers_rest (hgap : Blank gap) (hcolon : Blank colon) (hclose : Blank close)
    (h : ∀ m ∈ members, Reads n (text m.2) m.2) (before : List (String × Json))
    (hkeys : Ordered (before ++ members)) (fuel : Nat) (rest : List Char)
    (hfuel : 3 * (membersRest gap colon close text members).length ≤ fuel) :
    readMembers fuel (n + 1) false before (membersRest gap colon close text members ++ rest) =
      .ok (before ++ members, rest) := by
  induction members generalizing fuel before with
  | nil =>
    have hlength : 0 < (membersRest gap colon close text []).length := by simp [membersRest]
    obtain ⟨fuel, rfl⟩ : ∃ k, fuel = k + 1 := ⟨fuel - 1, by omega⟩
    have hend := readMembers_end fuel (n + 1) false before hclose rest
    simpa [membersRest] using hend
  | cons m members ih =>
    obtain ⟨hm, hmembers⟩ := List.forall_mem_cons.mp h
    have hbefore : ∀ m' ∈ before, keyBefore m'.1 m.1 = true := by
      intro m' hm'
      exact (List.pairwise_append.mp hkeys).2.2 m' hm' m List.mem_cons_self
    have hsplit := congrArg List.length (membersRest_cons gap colon close text m members [])
    simp only [List.append_nil, List.length_cons, List.length_append, memberText] at hsplit
    obtain ⟨fuel, rfl⟩ : ∃ k, fuel = k + 2 := ⟨fuel - 2, by omega⟩
    -- What was read so far grows by the member, which stands behind all of it.
    rw [List.append_cons] at hkeys ⊢
    have hrest := ih hmembers (before ++ [m]) hkeys fuel (by omega)
    rw [membersRest_cons, readMembers_next _ _ _ _ hgap, readMember_append hcolon hm (by omega),
      insertMember_append hbefore, hrest]

theorem readValue_object (fuel n : Nat) (cs : List Char) :
    readValue (fuel + 1) (n + 2) ('\x7b' :: cs) =
      (readMembers fuel (n + 1) true [] cs).map fun (ms, rest) => (.object ms, rest) := by
  have hbracket : isBlank '\x7b' = false := by decide
  simp [readValue, skipBlanks_cons hbracket]

theorem reads_object (hgap : Blank gap) (hcolon : Blank colon) (hclose : Blank close)
    (h : ∀ m ∈ members, Reads n (text m.2) m.2) (hkeys : Ordered members) :
    Reads (n + 1)
      ('\x7b' :: (commas (members.map fun m => gap ++ memberText colon text m) ++
        (close ++ ['\x7d']))) (.object members) := by
  refine ⟨⟨'\x7b', _, rfl, by decide, by decide⟩, ?_⟩
  intro fuel rest hfuel
  simp only [List.length_cons, List.length_append, List.length_nil] at hfuel
  obtain ⟨fuel, rfl⟩ : ∃ k, fuel = k + 3 := ⟨fuel - 3, by omega⟩
  rw [List.cons_append, readValue_object]
  cases members with
  | nil =>
    have hend := readMembers_end (fuel + 1) (n + 1) true [] hclose rest
    simp [commas, hend, Except.map]
  | cons m members =>
    obtain ⟨hm, hmembers⟩ := List.forall_mem_cons.mp h
    have htext : commas ((m :: members).map fun m => gap ++ memberText colon text m) ++
        (close ++ ['\x7d']) =
        gap ++ (memberText colon text m ++ membersRest gap colon close text members) := by
      simp [commas_cons, membersRest, List.flatMap_map]
    have hlength := congrArg List.length htext
    have hmember : (memberText colon text m).length =
        (stringChars m.1).length + (colon.length + (text m.2).length + 1) := by
      simp [memberText]
    simp only [List.length_append, List.length_cons, List.length_nil] at hlength
    have hrest :=
      readMembers_rest hgap hcolon hclose hmembers [m] hkeys fuel rest (by omega)
    rw [htext, List.append_assoc, List.append_assoc, readMembers_first _ _ _ _ hgap,
      readMember_append hcolon hm (by omega)]
    have hinsert : insertMember m.1 m.2 [] = [m] := rfl
    rw [hinsert, hrest]
    rfl

end Members

/-- Values made of strings, arrays and objects, with at most `n` brackets open at a time. -/
inductive Textual : Nat → Json → Prop
  | string (n : Nat) (s : String) : Textual n (.string s)
  | array {n : Nat} {items : List Json} (h : ∀ v ∈ items, Textual n v) :
    Textual (n + 1) (.array items)
  | object {n : Nat} {members : List (String × Json)} (hkeys : Ordered members)
    (h : ∀ m ∈ members, Textual n m.2) : Textual (n + 1) (.object members)

theorem compactItems_eq (items : List Json) : compactItems items = items.map compact := by
  induction items with
  | nil => rfl
  | cons v items ih => simp [compactItems, ih]

theorem compactMembers_eq (members : List (String × Json)) :
    compactMembers members = members.map (memberText [] compact) := by
  induction members with
  | nil => rfl
  | cons m members ih => simp [compactMembers, memberText, ih]

theorem prettyItems_eq (depth : Nat) (items : List Json) :
    prettyItems depth items = items.map (pretty depth) := by
  induction items with
  | nil => rfl
  | cons v items ih => simp [prettyItems, ih]

theorem prettyMembers_eq (depth : Nat) (members : List (String × Json)) :
    prettyMembers depth members = members.map (memberText [' '] (pretty depth)) := by
  induction members with
  | nil => rfl
  | cons m members ih => simp [prettyMembers, memberText, ih]

theorem blank_nil : Blank [] := nofun

theorem blank_newline (depth : Nat) : Blank (newline depth) := by
  intro c hc
  rcases List.mem_cons.mp hc with rfl | hc
  · decide
  · obtain ⟨-, rfl⟩ := List.mem_replicate.mp hc
    decide

theorem reads_compact (h : Textual n v) : Reads n v.compact v := by
  induction h with
  | string n s => simpa [compact] using reads_string n s
  | array h ih =>
    have harray := reads_array blank_nil blank_nil ih
    simpa [compact, compactItems_eq] using harray
  | object hkeys h ih =>
    have hobject := reads_object blank_nil blank_nil blank_nil ih hkeys
    simpa [compact, compactMembers_eq] using hobject

theorem exists_block (depth : Nat) (left right : Char) (parts : List (List Char)) :
    ∃ close, Blank close ∧ block depth left right parts =
      left :: (commas (parts.map (newline (depth + 1) ++ ·)) ++ (close ++ [right])) := by
  cases parts with
  | nil => exact ⟨[], blank_nil, rfl⟩
  | cons part parts => exact ⟨newline depth, blank_newline depth, by simp [block]⟩

theorem reads_pretty (h : Textual n v) (depth : Nat) : Reads n (v.pretty depth) v := by
  induction h generalizing depth with
  | string n s => simpa [pretty] using reads_string n s
  | @array n items h ih =>
    obtain ⟨close, hclose, hblock⟩ :=
      exists_block depth '[' ']' (items.map (pretty (depth + 1)))
    have harray := reads_array (blank_newline (depth + 1)) hclose fun v hv => ih v hv (depth + 1)
    rw [pretty, prettyItems_eq, hblock, List.map_map]
    exact harray
  | @object n members hkeys h ih =>
    obtain ⟨close, hclose, hblock⟩ :=
      exists_block depth '\x7b' '\x7d' (members.map (memberText [' '] (pretty (depth + 1))))
    have hcolon : Blank [' '] := by simp [Blank, isBlank]
    have hobject := reads_object (blank_newline (depth + 1)) hcolon hclose
      (fun m hm => ih m hm (depth + 1)) hkeys
    rw [pretty, prettyMembers_eq, hblock, List.map_map]
    exact hobject

/-- A text that reads as a value is a document of that value, also with blanks behind it. -/
theorem parse_of_reads (h : Reads (depthLimit - 1) text v) (hclose : Blank close) :
    parse (String.ofList (text ++ close)) = .ok v := by
  have hfuel : 3 * text.length ≤ 3 * (text ++ close).length + 3 := by
    simp only [List.length_append]
    omega
  have hread : readValue (3 * (text ++ close).length + 3) depthLimit (text ++ close) =
      .ok (v, close) := h.read _ close hfuel
  have hend : skipBlanks close = [] := by
    have hblanks := skipBlanks_append hclose []
    rwa [List.append_nil] at hblanks
  have hdocument : readDocument (text ++ close) = .ok v := by
    simp only [readDocument, hread, Except.bind, hend]
  simp [parse, hdocument]

end TagSieve.Json
