import TagSieve.Json.Error
import TagSieve.Json.Value

/-!
Reading JSON. Every reader takes the text that is left; a fault says what is left where it was
found and how many bytes further on it is reported.
-/

namespace TagSieve.Json

-- Powers are those of core, also where other instances are in scope.
attribute [local instance (high)] instPowNat

structure Fault where
  cause : JsonCause
  rest : List Char
  bytes : Nat

/-- What was read and what is left. -/
abbrev Read (α : Type) := Except Fault (α × List Char)

/-- A fault in front of the text that is left. -/
def failAt {α : Type} (cause : JsonCause) (rest : List Char) : Read α := .error ⟨cause, rest, 0⟩

/-- A fault at the next byte, or at the end if there is none. -/
def failNext {α : Type} (cause : JsonCause) (rest : List Char) : Read α :=
  .error ⟨cause, rest, if rest.isEmpty then 0 else 1⟩

def isBlank (c : Char) : Bool := c == ' ' || c == '\n' || c == '\t' || c == '\r'

def skipBlanks (cs : List Char) : List Char := cs.dropWhile isBlank

/-- The rest of a word whose first letter was taken. -/
def readWord {α : Type} (value : α) : List Char → List Char → Read α
  | [], cs => .ok (value, cs)
  | _ :: _, [] => failAt .endInValue []
  | w :: ws, c :: rest =>
    if c = w then readWord value ws rest else .error ⟨.expectedIdent, c :: rest, 1⟩

/-- Appends digits to a number as long as it needs no more than 64 bits. -/
def readDigits (n : Nat) : List Char → Nat × List Char
  | [] => (n, [])
  | c :: rest =>
    if c.isDigit && decide (10 * n + digitValue c < 2 ^ (64 : Nat)) then
      readDigits (10 * n + digitValue c) rest
    else (n, c :: rest)

/-- The number `n * 10 ^ e` by one multiplication or division of floating point numbers, or after
divisions by `10 ^ 308` for very small exponents; `fuel` bounds those, as two give zero. -/
def scaleDecimal (x : Binary64) (e : Int) : Nat → Option Binary64
  | 0 => some x
  | fuel + 1 =>
    if e.natAbs ≤ 308 then
      let power := Binary64.ofDecimal false 1 e.natAbs
      if 0 ≤ e then
        let y := x.mul power
        if y.isInfinite then none else some y
      else some (x.div power)
    else if x.isZero then some x
    else if 0 ≤ e then none
    else scaleDecimal (x.div (Binary64.ofDecimal false 1 308)) (e + 308) fuel

/-- A floating point number from its digits and exponent; one beyond all finite numbers is out of
range. -/
def readScaled (negative : Bool) (n : Nat) (e : Int) (rest : List Char) : Read JsonNumber :=
  match scaleDecimal (Binary64.ofInt n) e 4 with
  | some x => .ok (.float (if negative then x.neg else x), rest)
  | none => failAt .numberOutOfRange rest

/-- The exponent after its letter. More digits than fit into 32 bits give zero or are out of range,
which is reported behind the first digit that does not fit. -/
def readExponent (negative : Bool) (n : Nat) (e : Int) (cs : List Char) : Read JsonNumber :=
  let (down, digits) := match cs with
    | '+' :: rest => (false, rest)
    | '-' :: rest => (true, rest)
    | _ => (false, cs)
  match digits with
  | [] => failAt .endInValue []
  | c :: rest =>
    if c.isDigit then exponentDigits down (digitValue c) rest
    else .error ⟨.invalidNumber, c :: rest, 1⟩
where
  exponentDigits (down : Bool) (size : Nat) : List Char → Read JsonNumber
    | [] => readScaled negative n (if down then e - size else e + size) []
    | c :: rest =>
      if !c.isDigit then readScaled negative n (if down then e - size else e + size) (c :: rest)
      else if 10 * size + digitValue c < 2 ^ (31 : Nat) then
        exponentDigits down (10 * size + digitValue c) rest
      else if n = 0 ∨ down then
        .ok (.float (Binary64.zero negative), rest.dropWhile Char.isDigit)
      else failAt .numberOutOfRange rest

/-- What may follow the digits of a floating point number: its exponent. -/
def readExponent? (negative : Bool) (n : Nat) (e : Int) (cs : List Char) : Read JsonNumber :=
  match cs with
  | 'e' :: rest | 'E' :: rest => readExponent negative n e rest
  | _ => readScaled negative n e cs

/-- The digits after a point. Those beyond 64 bits are dropped. -/
def readFraction (negative : Bool) (n : Nat) (e : Int) (cs : List Char) : Read JsonNumber :=
  let (m, rest) := readDigits n cs
  let places : Nat := cs.length - rest.length
  if rest.head?.any Char.isDigit then
    readExponent? negative m (e - places) (rest.dropWhile Char.isDigit)
  else if places = 0 then
    failNext (if rest.isEmpty then .endInValue else .invalidNumber) rest
  else readExponent? negative m (e - places) rest

/-- The number of a whole numeral: an integer, but minus zero and what has no 64-bit form are
floating point numbers. -/
def wholeNumber (negative : Bool) (n : Nat) : JsonNumber :=
  if negative then
    if n = 0 ∨ 2 ^ (63 : Nat) < n then .float (Binary64.ofRatio true n 1) else .integer (-n)
  else .integer n

/-- A number after its sign. -/
def readNumber (negative : Bool) : List Char → Read JsonNumber
  | [] => failAt .endInValue []
  | c :: rest =>
    if !c.isDigit then .error ⟨.invalidNumber, c :: rest, 1⟩
    else if c = '0' then
      if rest.head?.any Char.isDigit then failNext .invalidNumber rest else more 0 rest
    else
      let (n, rest) := readDigits (digitValue c) rest
      if rest.head?.any Char.isDigit then
        let dropped := rest.takeWhile Char.isDigit
        match rest.dropWhile Char.isDigit with
        | '.' :: rest => readFraction negative n dropped.length rest
        | rest => readExponent? negative n dropped.length rest
      else more n rest
where
  more (n : Nat) (cs : List Char) : Read JsonNumber :=
    match cs with
    | '.' :: rest => readFraction negative n 0 rest
    | 'e' :: rest | 'E' :: rest => readExponent negative n 0 rest
    | _ => .ok (wholeNumber negative n, cs)

def hexDigit? (c : Char) : Option Nat :=
  if c.isDigit then some (c.toNat - '0'.toNat)
  else if 'a' ≤ c ∧ c ≤ 'f' then some (c.toNat - 'a'.toNat + 10)
  else if 'A' ≤ c ∧ c ≤ 'F' then some (c.toNat - 'A'.toNat + 10)
  else none

/-- Four hexadecimal digits. -/
def readHex (cs : List Char) : Read Nat :=
  match cs with
  | a :: b :: c :: d :: rest =>
    match hexDigit? a, hexDigit? b, hexDigit? c, hexDigit? d with
    | some a, some b, some c, some d => .ok (4096 * a + 256 * b + 16 * c + d, rest)
    | _, _, _, _ => .error ⟨.invalidEscape, cs, 4⟩
  | _ =>
    if JsonError.byteSize cs < 4 then failAt .endInString []
    else .error ⟨.invalidEscape, cs, 4⟩

/-- The next character has to be the one given. -/
def readMark (mark : Char) : List Char → Read Unit
  | [] => failAt .endInString []
  | c :: rest => if c = mark then .ok ((), rest) else .error ⟨.endOfHexEscape, c :: rest, 1⟩

/-- A character by its UTF-16 units, after the first mark: two of them for the characters beyond
the first plane. -/
def readUnits (cs : List Char) : Read Char :=
  (readHex cs).bind fun (first, rest) =>
    if 0xDC00 ≤ first ∧ first ≤ 0xDFFF then failAt .loneSurrogate rest
    else if 0xD800 ≤ first ∧ first ≤ 0xDBFF then
      (readMark '\\' rest).bind fun (_, rest) =>
        (readMark 'u' rest).bind fun (_, rest) =>
          (readHex rest).bind fun (second, rest) =>
            if 0xDC00 ≤ second ∧ second ≤ 0xDFFF then
              .ok (Char.ofNat (0x10000 + 0x400 * (first - 0xD800) + (second - 0xDC00)), rest)
            else failAt .loneSurrogate rest
    else .ok (Char.ofNat first, rest)

/-- What a backslash stands for with the text behind it. -/
def readEscape : List Char → Read Char
  | [] => failAt .endInString []
  | c :: rest =>
    match c with
    | '"' => .ok ('"', rest)
    | '\\' => .ok ('\\', rest)
    | '/' => .ok ('/', rest)
    | 'b' => .ok ('\x08', rest)
    | 'f' => .ok ('\x0c', rest)
    | 'n' => .ok ('\n', rest)
    | 'r' => .ok ('\r', rest)
    | 't' => .ok ('\t', rest)
    | 'u' => readUnits rest
    | _ => .error ⟨.invalidEscape, c :: rest, 1⟩

/-- The characters of a string after its opening quote; `fuel` bounds their number. -/
def readChars : Nat → List Char → Read (List Char)
  | 0, _ => failAt .endInString []
  | _ + 1, [] => failAt .endInString []
  | fuel + 1, c :: rest =>
    if c = '"' then .ok ([], rest)
    else if c = '\\' then
      (readEscape rest).bind fun (d, rest) =>
        (readChars fuel rest).map fun (cs, rest) => (d :: cs, rest)
    else if c.toNat < 32 then .error ⟨.controlCharacter, c :: rest, 1⟩
    else (readChars fuel rest).map fun (cs, rest) => (c :: cs, rest)

def readString (cs : List Char) : Read String :=
  (readChars (cs.length + 1) cs).map fun (text, rest) => (String.ofList text, rest)

/-- How many brackets may be open at a time, and one more. -/
def depthLimit : Nat := 128

mutual

/-- A value after blanks. `depth` is the number of brackets that may still be opened, and one more;
`fuel` bounds the number of values and separators. -/
def readValue (fuel depth : Nat) (cs : List Char) : Read Json :=
  match fuel with
  | 0 => failAt .endInValue []
  | fuel + 1 =>
    match skipBlanks cs with
    | [] => failNext .endInValue []
    | 'n' :: rest => readWord .null ['u', 'l', 'l'] rest
    | 't' :: rest => readWord (.bool true) ['r', 'u', 'e'] rest
    | 'f' :: rest => readWord (.bool false) ['a', 'l', 's', 'e'] rest
    | '"' :: rest => (readString rest).map fun (s, rest) => (.string s, rest)
    | '-' :: rest => (readNumber true rest).map fun (n, rest) => (.number n, rest)
    | '[' :: rest =>
      if depth ≤ 1 then failNext .tooDeep ('[' :: rest)
      else (readItems fuel (depth - 1) true rest).map fun (vs, rest) => (.array vs, rest)
    | '\x7b' :: rest =>
      if depth ≤ 1 then failNext .tooDeep ('\x7b' :: rest)
      else (readMembers fuel (depth - 1) true [] rest).map fun (ms, rest) => (.object ms, rest)
    | c :: rest =>
      if c.isDigit then (readNumber false (c :: rest)).map fun (n, rest) => (.number n, rest)
      else failNext .expectedValue (c :: rest)

/-- The items of an array up to its end. -/
def readItems (fuel depth : Nat) (first : Bool) (cs : List Char) : Read (List Json) :=
  match fuel with
  | 0 => failAt .endInList []
  | fuel + 1 =>
    match skipBlanks cs with
    | [] => failNext .endInList []
    | ']' :: rest => .ok ([], rest)
    | c :: rest =>
      if first then readItem fuel depth (c :: rest)
      else if c = ',' then
        match skipBlanks rest with
        | [] => failNext .endInValue []
        | ']' :: rest => failNext .trailingComma (']' :: rest)
        | rest => readItem fuel depth rest
      else failNext .expectedListEnd (c :: rest)

/-- An item and those behind it. -/
def readItem (fuel depth : Nat) (cs : List Char) : Read (List Json) :=
  match fuel with
  | 0 => failAt .endInList []
  | fuel + 1 =>
    (readValue fuel depth cs).bind fun (v, rest) =>
      (readItems fuel depth false rest).map fun (vs, rest) => (v :: vs, rest)

/-- The members of an object up to its end, added to those read before. -/
def readMembers (fuel depth : Nat) (first : Bool) (members : List (String × Json))
    (cs : List Char) : Read (List (String × Json)) :=
  match fuel with
  | 0 => failAt .endInObject []
  | fuel + 1 =>
    match skipBlanks cs with
    | [] => failNext .endInObject []
    | '\x7d' :: rest => .ok (members, rest)
    | c :: rest =>
      if first then readMember fuel depth members (c :: rest)
      else if c = ',' then
        match skipBlanks rest with
        | [] => failNext .endInValue []
        | '\x7d' :: rest => failNext .trailingComma ('\x7d' :: rest)
        | rest => readMember fuel depth members rest
      else failNext .expectedObjectEnd (c :: rest)

/-- A member and those behind it. -/
def readMember (fuel depth : Nat) (members : List (String × Json)) (cs : List Char) :
    Read (List (String × Json)) :=
  match fuel with
  | 0 => failAt .endInObject []
  | fuel + 1 =>
    match cs with
    | '"' :: rest =>
      (readString rest).bind fun (key, rest) =>
        match skipBlanks rest with
        | [] => failNext .endInObject []
        | ':' :: rest =>
          (readValue fuel depth rest).bind fun (v, rest) =>
            readMembers fuel depth false (insertMember key v members) rest
        | rest => failNext .expectedColon rest
    | _ => failNext .keyNotString cs

end

/-- A whole text: one value between blanks. -/
def readDocument (cs : List Char) : Except Fault Json :=
  (readValue (3 * cs.length + 3) depthLimit cs).bind fun (v, rest) =>
    match skipBlanks rest with
    | [] => .ok v
    | rest => .error ⟨.trailingCharacters, rest, 1⟩

/-- The value of a text, or the first thing that is wrong with it. -/
def parse (source : String) : Except JsonError Json :=
  let cs := source.toList
  match readDocument cs with
  | .ok v => .ok v
  | .error f =>
    .error (JsonError.atByte cs f.cause
      (JsonError.byteSize cs - JsonError.byteSize f.rest + f.bytes))

end TagSieve.Json
