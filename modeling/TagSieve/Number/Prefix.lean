import TagSieve.Number.Numeral

/-!
Numbers at the front of a tag value. Tag values are free text, so a numeric comparison reads the
longest number that the text starts with, after blanks and a sign, and ignores what follows;
without one it reads zero.
-/

namespace TagSieve

-- Powers are those of core, also where other instances are in scope.
attribute [local instance (high)] instPowNat

/-- The blanks that may stand before a number. -/
def isNumberBlank (c : Char) : Bool :=
  c == ' ' || c == '\t' || c == '\n' || c == '\x0b' || c == '\x0c' || c == '\r'

/-- A value moved into the range of 64-bit integers. -/
def saturate (i : Int) : Int64 :=
  Int64.ofInt (max (-(2 ^ (63 : Nat))) (min i (2 ^ (63 : Nat) - 1)))

/-- One more digit behind a number, moving away from zero. -/
def appendDigit (negative : Bool) (value : Int64) (c : Char) : Int64 :=
  let tens := saturate (value.toInt * 10)
  if negative then saturate (tens.toInt - digitValue c) else saturate (tens.toInt + digitValue c)

/-- The integer at the front of a text. -/
def integerPrefix (cs : List Char) : Int64 :=
  let (negative, rest) := splitSign (cs.dropWhile isNumberBlank)
  (rest.takeWhile Char.isDigit).foldl (appendDigit negative) 0

/-- The characters at the front of a text that fill so many bytes, if a character ends there. -/
def fillBytes? : Nat → List Char → Option (List Char)
  | 0, _ => some []
  | _ + 1, [] => none
  | n + 1, c :: cs =>
    if c.utf8Size ≤ n + 1 then (fillBytes? (n + 1 - c.utf8Size) cs).map (c :: ·) else none

/-- The part of a text that words are looked for in: its first eight bytes, or all of it where no
character ends there. -/
def lookahead (cs : List Char) : List Char := (fillBytes? 8 cs).getD cs

/-- Whether a text starts with a word of lower-case letters, in any case. -/
def startsWithWord (word cs : List Char) : Bool :=
  (cs.take word.length).map Char.toLower == word

/-- The digits at the front of a text with at most one point among them, and the rest. -/
def splitMantissa (cs : List Char) : List Char × List Char :=
  let whole := cs.takeWhile Char.isDigit
  match cs.dropWhile Char.isDigit with
  | '.' :: rest => (whole ++ '.' :: rest.takeWhile Char.isDigit, rest.dropWhile Char.isDigit)
  | rest => (whole, rest)

/-- The exponent at the front of a text. It counts only if at least one digit follows. -/
def exponentChars : List Char → List Char
  | c :: rest =>
    let digits := (rest.drop (signSize rest)).takeWhile Char.isDigit
    if (c = 'e' ∨ c = 'E') ∧ digits ≠ [] then c :: (rest.take (signSize rest) ++ digits) else []
  | [] => []

/-- The numeral at the front of a text without sign; nothing if there is no digit in it. -/
def numeralChars (cs : List Char) : List Char :=
  let (mantissa, rest) := splitMantissa cs
  if mantissa.any Char.isDigit then mantissa ++ exponentChars rest else []

/-- One with a sign. -/
def Binary64.signUnit (negative : Bool) : Binary64 := ofInt (if negative then -1 else 1)

/-- The floating point number at the front of a text; `inf` and `nan` count in any case. -/
def floatPrefix (cs : List Char) : Binary64 :=
  let (negative, rest) := splitSign (cs.dropWhile isNumberBlank)
  let sign := Binary64.signUnit negative
  if startsWithWord ['i', 'n', 'f'] (lookahead rest) then sign.mul (Binary64.infinity false)
  else if startsWithWord ['n', 'a', 'n'] (lookahead rest) then Binary64.nan
  else
    let numeral := numeralChars rest
    if numeral.isEmpty then Binary64.zero false
    else ((Binary64.ofText? numeral).map sign.mul).getD (Binary64.zero false)

end TagSieve
