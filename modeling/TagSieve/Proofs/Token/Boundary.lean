import TagSieve.Proofs.Token.Literal

/-! A token ends where a blank or a parenthesis follows, just as at the end of the text. -/
namespace TagSieve

variable {cs rest more body : List Char} {c : Char} {m n : Nat} {s : Symbol} {v : Value}

/-- The characters that no token goes on into: blanks and parentheses. -/
def isBoundary (c : Char) : Bool := Unicode.isWhitespace c || c == '(' || c == ')'

/-- Texts that no token goes on into. -/
def Ends (more : List Char) : Prop := ∀ c ∈ more.head?, isBoundary c = true

theorem ends_nil : Ends [] := nofun

theorem ends_cons (h : isBoundary c = true) (cs : List Char) : Ends (c :: cs) := by
  rintro d ⟨⟩
  exact h

/-- The code points of boundaries. -/
def boundaryCodes : List Nat :=
  [0x9, 0xA, 0xB, 0xC, 0xD, 0x20, 0x28, 0x29, 0x85, 0xA0, 0x1680, 0x2000, 0x2001, 0x2002, 0x2003,
   0x2004, 0x2005, 0x2006, 0x2007, 0x2008, 0x2009, 0x200A, 0x2028, 0x2029, 0x202F, 0x205F, 0x3000]

theorem mem_boundaryCodes (h : isBoundary c = true) : c.toNat ∈ boundaryCodes := by
  have hranges : ∀ p ∈ Unicode.whiteSpaceRanges,
      ∀ n ∈ List.range' p.1 (p.2 + 1 - p.1), n ∈ boundaryCodes := by decide
  simp only [isBoundary, Bool.or_eq_true, beq_iff_eq] at h
  rcases h with (h | rfl) | rfl
  · obtain ⟨p, hp, hlow, hhigh⟩ := Unicode.Ranges.exists_of_covers h
    apply hranges p hp
    rw [List.mem_range'_1]
    omega
  · decide
  · decide

theorem of_isBoundary (p : Char → Bool) (hp : boundaryCodes.all (fun n => p (Char.ofNat n)) = true)
    (h : isBoundary c = true) : p c = true := by
  have := List.all_eq_true.mp hp _ (mem_boundaryCodes h)
  simpa using this

theorem not_isIdentChar (h : isBoundary c = true) : isIdentChar c = false := by
  simpa using of_isBoundary (fun c => !isIdentChar c) (by decide +kernel) h

theorem not_isNumberChar (h : isBoundary c = true) : isNumberChar c = false := by
  simpa using of_isBoundary (fun c => !isNumberChar c) (by decide +kernel) h

theorem not_isBareNameChar (h : isBoundary c = true) : isBareNameChar c = false := by
  simpa using of_isBoundary (fun c => !isBareNameChar c) (by decide +kernel) h

/-- The second characters of tokens whose first one is a token too. -/
def continues (c : Char) : Bool := ['=', '~', 'i', 'm', '.'].contains c

theorem not_continues (h : isBoundary c = true) : continues c = false := by
  simpa using of_isBoundary (fun c => !continues c) (by decide +kernel) h

/-- What did not start with some character still does not in front of a text that no token goes on
into. -/
theorem append_ne_cons {d : Char} (hd : continues d = true) (hmore : Ends more)
    (h : ∀ t, rest = d :: t → False) (t : List Char) : rest ++ more ≠ d :: t := by
  cases rest with
  | nil =>
    rintro rfl
    have := not_continues (hmore d rfl)
    simp [hd] at this
  | cons a rest =>
    intro heq
    obtain ⟨rfl, -⟩ := List.cons.inj heq
    exact h rest rfl

/-- A run of characters in front of a text that does not go on with them. -/
theorem takeWhile_run {p : Char → Bool} (hcs : ∀ c ∈ cs, p c = true) (more : List Char)
    (hmore : ∀ c ∈ more.head?, p c = false) :
    (cs ++ more).takeWhile p = cs ∧ (cs ++ more).dropWhile p = more := by
  rw [List.takeWhile_append_of_pos hcs, List.dropWhile_append_of_pos hcs]
  cases more with
  | nil => simp
  | cons c more =>
    have hc : p c = false := hmore c rfl
    simp [hc]

theorem takeWhile_append_more {p : Char → Bool} (cs more : List Char)
    (h : ∀ c ∈ (cs.dropWhile p ++ more).head?, p c = false) :
    (cs ++ more).takeWhile p = cs.takeWhile p ∧
      (cs ++ more).dropWhile p = cs.dropWhile p ++ more := by
  have hrun : ∀ c ∈ cs.takeWhile p, p c = true := fun c => List.mem_takeWhile_imp
  have happend : cs ++ more = cs.takeWhile p ++ (cs.dropWhile p ++ more) := by
    rw [← List.append_assoc, List.takeWhile_append_dropWhile]
  rw [happend]
  exact takeWhile_run hrun _ h

theorem head?_dropWhile_append {p : Char → Bool} (hp : ∀ c, isBoundary c = true → p c = false)
    (hmore : Ends more) : ∀ c ∈ (cs.dropWhile p ++ more).head?, p c = false := by
  intro c hc
  cases hdrop : cs.dropWhile p with
  | nil =>
    rw [hdrop] at hc
    exact hp c (hmore c hc)
  | cons d ds =>
    rw [hdrop] at hc
    obtain rfl : d = c := Option.some.inj hc
    simpa [hdrop] using List.head?_dropWhile_not p cs

end TagSieve
