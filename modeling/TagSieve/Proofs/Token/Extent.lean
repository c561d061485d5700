import TagSieve.Proofs.Text.Escaped
import TagSieve.Token.Lexer

/-! Every reading takes exactly its size off the front of the text, and every token but the end takes
something. -/
namespace TagSieve

variable {cs rest rest' body : List Char} {m n : Nat} {s : Symbol}

/-- Taking `n` characters off the front of `cs` leaves `rest`. -/
def Takes (cs : List Char) (n : Nat) (rest : List Char) : Prop :=
  ∃ taken : List Char, taken.length = n ∧ taken ++ rest = cs

namespace Takes

theorem refl (cs : List Char) : Takes cs 0 cs := ⟨[], rfl, rfl⟩

theorem trans (h : Takes cs m rest) (h' : Takes rest n rest') : Takes cs (m + n) rest' := by
  obtain ⟨a, rfl, rfl⟩ := h
  obtain ⟨b, rfl, rfl⟩ := h'
  exact ⟨a ++ b, List.length_append, List.append_assoc a b rest'⟩

theorem cons (c : Char) (h : Takes cs n rest) : Takes (c :: cs) (1 + n) rest :=
  trans ⟨[c], rfl, rfl⟩ h

theorem head (c : Char) (cs : List Char) : Takes (c :: cs) 1 cs := ⟨[c], rfl, rfl⟩

theorem length_add (h : Takes cs n rest) : n + rest.length = cs.length := by
  obtain ⟨a, rfl, rfl⟩ := h
  exact List.length_append.symm

theorem takeWhile (p : Char → Bool) (cs : List Char) :
    Takes cs (cs.takeWhile p).length (cs.dropWhile p) :=
  ⟨cs.takeWhile p, rfl, List.takeWhile_append_dropWhile⟩

theorem decode (stop : Char → Bool) (cs : List Char) :
    Takes cs (Escaped.extent stop cs) (Escaped.decode stop cs).2 := by
  have hlen : Escaped.extent stop cs + _ = _ := Escaped.extent_add_length cs
  refine ⟨cs.take (Escaped.extent stop cs), ?_, ?_⟩
  · rw [List.length_take]
    omega
  · rw [Escaped.decode_eq_drop, List.take_append_drop]

theorem splitSign (cs : List Char) : Takes cs (signSize cs) (splitSign cs).2 := by
  cases cs with
  | nil => exact refl []
  | cons c cs =>
    by_cases hminus : c = '-'
    · subst hminus
      exact head '-' cs
    · by_cases hplus : c = '+'
      · subst hplus
        exact head '+' cs
      · have hsize : signSize (c :: cs) = 0 := by simp [signSize, hminus, hplus]
        have hrest : TagSieve.splitSign (c :: cs) = (false, c :: cs) := by
          simp [TagSieve.splitSign, hminus, hplus]
        rw [hsize, hrest]
        exact refl (c :: cs)

theorem readFlags (i m : Bool) (cs : List Char) :
    Takes cs (TagSieve.readFlags i m cs).2.1 (TagSieve.readFlags i m cs).2.2 := by
  fun_induction TagSieve.readFlags i m cs with
  | case1 => exact refl _
  | case2 m rest i hi flags size rest' heq ih =>
    rw [heq] at ih
    exact Nat.add_comm 1 size ▸ ih.cons 'i'
  | case3 => exact refl _
  | case4 i rest m hm flags size rest' heq ih =>
    rw [heq] at ih
    exact Nat.add_comm 1 size ▸ ih.cons 'm'
  | case5 => exact refl _

theorem readSelector (cs : List Char) :
    Takes cs (TagSieve.readSelector cs).2.1 (TagSieve.readSelector cs).2.2 := by
  unfold TagSieve.readSelector
  split
  · exact ⟨['*', '&'], rfl, rfl⟩
  · exact ⟨['*', '|'], rfl, rfl⟩
  · exact head '*' _
  · dsimp only
    split
    · exact refl cs
    · split
      · exact takeWhile Char.isDigit cs
      · exact takeWhile Char.isDigit cs

end Takes

/-- The reading takes its size off the front of the text. -/
def Reading.TakenFrom (cs : List Char) (r : Reading) : Prop := Takes cs r.size r.rest

theorem takenFrom_readString (c : Char) (body : List Char) :
    (readString (c :: body)).TakenFrom (c :: body) := by
  have hbody := (Takes.decode (· == '"') body).cons c
  simp only [readString, List.drop_succ_cons, List.drop_zero]
  split
  next heq =>
    rw [heq] at hbody
    exact hbody
  next d rest heq =>
    rw [heq] at hbody
    exact hbody.trans (.head d rest)

theorem takenFrom_readRegex (c : Char) (body : List Char) :
    (readRegex (c :: body)).TakenFrom (c :: body) := by
  have hbody := (Takes.decode (· == '/') body).cons c
  simp only [readRegex, List.drop_succ_cons, List.drop_zero]
  split
  next heq =>
    rw [heq] at hbody
    exact hbody
  next d rest heq =>
    rw [heq] at hbody
    have hflags := (hbody.trans (.head d rest)).trans (.readFlags false false rest)
    split
    next => exact hflags
    next => split <;> exact hflags

theorem takenFrom_readNumberUpTo {value : Option Value} {size : Nat} (h : Takes cs size rest) :
    (readNumberUpTo value cs size rest).TakenFrom cs := by
  unfold readNumberUpTo
  dsimp only
  split
  · exact h.trans (.takeWhile isIdentChar rest)
  · exact h
  · exact h

theorem startsLoneZero_eq_true (h : startsLoneZero body = true) : ∃ rest, body = '0' :: rest := by
  unfold startsLoneZero at h
  split at h
  · cases h
  · exact ⟨_, rfl⟩
  · cases h

theorem takenFrom_readNumber (cs : List Char) : (readNumber cs).TakenFrom cs := by
  have hsign := Takes.splitSign cs
  unfold readNumber
  dsimp only
  split
  case isTrue h =>
    obtain ⟨rest, hrest⟩ := startsLoneZero_eq_true h
    rw [hrest] at hsign ⊢
    exact takenFrom_readNumberUpTo (hsign.trans (.head '0' rest))
  case isFalse =>
    exact takenFrom_readNumberUpTo (hsign.trans (.takeWhile isNumberChar _))

theorem takenFrom_readSelected (name : String) {start : Nat} (h : Takes cs start rest) :
    (readSelected name start rest).TakenFrom cs := by
  have hselector := h.trans (.readSelector rest)
  unfold readSelected
  split
  next heq =>
    rw [heq] at hselector
    exact hselector
  next heq =>
    rw [heq] at hselector
    exact hselector.trans (.head _ _)
  next heq =>
    rw [heq] at hselector
    exact hselector
  next heq =>
    rw [heq] at hselector
    exact hselector

theorem takenFrom_readTagKey (c : Char) (body : List Char) :
    (readTagKey (c :: body)).TakenFrom (c :: body) := by
  simp only [readTagKey, List.drop_succ_cons, List.drop_zero]
  split
  next inner =>
    have hinner := ((Takes.decode endsBracedName inner).cons '\x7b').cons c
    rw [← Nat.add_assoc] at hinner
    split
    next heq =>
      rw [heq] at hinner
      exact hinner
    next heq =>
      rw [heq] at hinner
      exact takenFrom_readSelected _ (hinner.trans (.head _ _))
    next heq =>
      rw [heq] at hinner
      exact hinner.trans (.head _ _)
  next =>
    split
    · exact .head c body
    · exact (Takes.takeWhile isBareNameChar body).cons c

theorem takenFrom_readKeyword (cs : List Char) : (readKeyword cs).TakenFrom cs := by
  unfold readKeyword
  dsimp only
  split <;> exact .takeWhile isIdentChar cs

/-- The symbols with one spelling of their own. -/
def Symbol.IsMark : Symbol → Prop
  | not | connective _ | operator _ | openParen | closeParen => True
  | start | finish | value _ => False

theorem Symbol.IsMark.length_pos (hs : s.IsMark) : 0 < s.chars.length := by
  cases s with
  | connective c => cases c <;> exact Nat.succ_pos _
  | operator op => cases op <;> exact Nat.succ_pos _
  | not | openParen | closeParen => exact Nat.succ_pos _
  | start | finish | value => exact hs.elim

/-- The characters that make another token of a mark if they follow it. -/
def Symbol.prolongations : Symbol → List Char
  | not => ['=', '~']
  | operator .less | operator .greater => ['=']
  | _ => []

/-- The errors at a character that no token starts with. -/
def LexCause.IsStuck : LexCause → Prop
  | .unexpectedChar _ | .halvedOperator _ => True
  | _ => False

/-- The characters that tell by themselves what kind of token they start. -/
def punctuation : List Char := ['!', '=', '&', '|', '<', '>', '(', ')', '"', '/', '%']

/-- What can be read at the front of a text that starts with no blank. -/
inductive Reading.AtFront : List Char → Reading → Prop
  | finish : AtFront [] (.ok .finish 0 [])
  | mark {cs rest : List Char} {s : Symbol} {n : Nat} (hs : s.IsMark)
      (hrest : ∀ c ∈ rest.head?, c ∉ s.prolongations) (hcs : s.chars ++ rest = cs)
      (hn : s.chars.length = n) : AtFront cs (.ok s n rest)
  | string (body : List Char) : AtFront ('"' :: body) (readString ('"' :: body))
  | regex (body : List Char) : AtFront ('/' :: body) (readRegex ('/' :: body))
  | tagKey (body : List Char) : AtFront ('%' :: body) (readTagKey ('%' :: body))
  | number {c : Char} (hc : c ∉ punctuation) (hnumber : (c.isDigit || c == '+' || c == '-') = true)
      (body : List Char) : AtFront (c :: body) (readNumber (c :: body))
  | keyword {c : Char} (hc : c ∉ punctuation)
      (hnumber : ¬ (c.isDigit || c == '+' || c == '-') = true)
      (hletter : (Unicode.isAlphabetic c || c == '_') = true) (body : List Char) :
      AtFront (c :: body) (readKeyword (c :: body))
  | stuck {cause : LexCause} (hcause : cause.IsStuck) (c : Char) (body : List Char) :
      AtFront (c :: body) (.fail cause 0 1 0 (c :: body))

theorem ne_of_mem_head? {c d : Char} (h : ∀ tail, rest = d :: tail → False) (hc : c ∈ rest.head?) :
    c ≠ d := by
  rintro rfl
  obtain ⟨tail, htail⟩ := List.head?_eq_some_iff.mp hc
  exact h tail htail

theorem atFront_word {c : Char} (hc : c ∉ punctuation) (body : List Char) :
    (if c.isDigit || c == '+' || c == '-' then readNumber (c :: body)
      else if Unicode.isAlphabetic c || c == '_' then readKeyword (c :: body)
      else Reading.fail (.unexpectedChar c) 0 1 0 (c :: body)).AtFront (c :: body) := by
  split
  next hnumber => exact .number hc hnumber body
  next hnumber =>
    split
    next hletter => exact .keyword hc hnumber hletter body
    next => exact .stuck (by trivial) c body

theorem atFront_readToken (cs : List Char) : (readToken cs).AtFront cs := by
  unfold readToken
  split
  all_goals first
    | exact .mark (by trivial) (fun _ _ => List.not_mem_nil) rfl rfl
    | exact .stuck (by trivial) _ _
    | skip
  · exact .finish
  next hmatch hequal =>
    refine .mark (by trivial) ?_ rfl rfl
    intro c hc
    simp [Symbol.prolongations, ne_of_mem_head? hmatch hc, ne_of_mem_head? hequal hc]
  next hequal =>
    refine .mark (by trivial) ?_ rfl rfl
    intro c hc
    exact mt List.mem_singleton.mp (ne_of_mem_head? hequal hc)
  next hequal =>
    refine .mark (by trivial) ?_ rfl rfl
    intro c hc
    exact mt List.mem_singleton.mp (ne_of_mem_head? hequal hc)
  · exact .string _
  · exact .regex _
  · exact .tagKey _
  · refine atFront_word ?_ _
    simp only [punctuation, List.mem_cons, List.not_mem_nil, or_false, not_or]
    and_intros <;> assumption

theorem takenFrom_readToken (cs : List Char) : (readToken cs).TakenFrom cs := by
  have h := atFront_readToken cs
  generalize readToken cs = r at h ⊢
  cases h with
  | finish => exact .refl _
  | mark _ _ hcs hn => exact ⟨_, hn, hcs⟩
  | string => exact takenFrom_readString _ _
  | regex => exact takenFrom_readRegex _ _
  | tagKey => exact takenFrom_readTagKey _ _
  | number => exact takenFrom_readNumber _
  | keyword => exact takenFrom_readKeyword _
  | stuck => exact .refl _

end TagSieve
