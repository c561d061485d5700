import TagSieve.Number.Prefix
import TagSieve.Token
import TagSieve.Token.Error

/-!
Reading one token at the front of a text. A reader never looks behind that front, so what it reads
does not depend on where the text stands; spans of errors count from there. A reading also says
where the next one goes on, after an error too.
-/

namespace TagSieve

-- Powers are those of core, also where other instances are in scope.
attribute [local instance (high)] instPowNat

/-- What a reader made of a text, how many characters it took and the part it did not take. -/
structure Reading where
  outcome : Except LexError Symbol
  size : Nat
  rest : List Char

namespace Reading

def ok (s : Symbol) (size : Nat) (rest : List Char) : Reading := ⟨.ok s, size, rest⟩

def fail (cause : LexCause) (start stop size : Nat) (rest : List Char) : Reading :=
  ⟨.error ⟨cause, ⟨start, stop⟩⟩, size, rest⟩

/-- A failure whose span is all that was taken. -/
def failTaken (cause : LexCause) (size : Nat) (rest : List Char) : Reading :=
  fail cause 0 size size rest

end Reading

open Reading

/-- The characters of keywords, and those that may not touch a number. -/
def isIdentChar (c : Char) : Bool := Unicode.isAlphanumeric c || c == '_'

def readString (cs : List Char) : Reading :=
  let size := 1 + Escaped.extent (· == '"') (cs.drop 1)
  match Escaped.decode (· == '"') (cs.drop 1) with
  | (_, []) => failTaken (.unterminated .string) size []
  | (text, _ :: rest) => .ok (.value (.string (String.ofList text))) (size + 1) rest

/-- The flags behind a regular expression, how many there are and what follows. -/
def readFlags (ignoreCase multiline : Bool) :
    List Char → Except Char (Bool × Bool) × Nat × List Char
  | 'i' :: rest =>
    if ignoreCase then (.error 'i', 0, 'i' :: rest)
    else
      let (flags, size, rest) := readFlags true multiline rest
      (flags, size + 1, rest)
  | 'm' :: rest =>
    if multiline then (.error 'm', 0, 'm' :: rest)
    else
      let (flags, size, rest) := readFlags ignoreCase true rest
      (flags, size + 1, rest)
  | cs => (.ok (ignoreCase, multiline), 0, cs)

def readRegex (cs : List Char) : Reading :=
  let size := 1 + Escaped.extent (· == '/') (cs.drop 1)
  match Escaped.decode (· == '/') (cs.drop 1) with
  | (_, []) => failTaken (.unterminated .regex) size []
  | (text, _ :: rest) =>
    let (flags, count, rest) := readFlags false false rest
    let size := size + 1 + count
    match flags with
    | .error flag => .fail (.duplicateRegexFlag flag) size (size + 1) size rest
    | .ok (ignoreCase, multiline) =>
      match Pattern.ofSource? (String.ofList text) ignoreCase multiline with
      | some p => .ok (.value (.regex p)) size rest
      | none => failTaken (.invalidRegex (String.ofList text) ignoreCase multiline) size rest

/-- The integer of a sign and digits, if it has 64 bits. -/
def integerOf? (negative : Bool) (digits : List Char) : Option Int64 :=
  let n : Int := digitsValue digits
  let i := if negative then -n else n
  if digits.isEmpty || decide (i < -(2 ^ (63 : Nat))) || decide (2 ^ (63 : Nat) ≤ i) then none
  else some (Int64.ofInt i)

/-- The number that digits and points denote: an integer without a point, a float with exactly
one. -/
def numberOf? (negative : Bool) (cs : List Char) : Option Value :=
  match cs.takeWhile Char.isDigit, cs.dropWhile Char.isDigit with
  | whole, [] => (integerOf? negative whole).map .integer
  | whole, _ :: fraction =>
    if fraction.all Char.isDigit && !(whole.isEmpty && fraction.isEmpty) then
      some (.float (Numeral.value negative ⟨whole, fraction, 0⟩))
    else none

/-- A number of some characters before `rest`. Letters that touch it make all of it malformed. -/
def readNumberUpTo (value : Option Value) (cs : List Char) (size : Nat) (rest : List Char) :
    Reading :=
  let malformed (size : Nat) (rest : List Char) : Reading :=
    failTaken (.invalidNumber (String.ofList (cs.take size))) size rest
  match rest.head?.any (fun c => isIdentChar c && !c.isDigit), value with
  | true, _ => malformed (size + (rest.takeWhile isIdentChar).length) (rest.dropWhile isIdentChar)
  | false, none => malformed size rest
  | false, some v => .ok (.value v) size rest

/-- Whether a text starts with a zero that is complete by itself, for want of a point behind it. -/
def startsLoneZero : List Char → Bool
  | '0' :: '.' :: _ => false
  | '0' :: _ => true
  | _ => false

/-- The characters that a number may consist of after its sign. -/
def isNumberChar (c : Char) : Bool := c.isDigit || c == '.'

def readNumber (cs : List Char) : Reading :=
  let (negative, body) := splitSign cs
  if startsLoneZero body then
    readNumberUpTo (some (.integer 0)) cs (signSize cs + 1) (body.drop 1)
  else
    let digits := body.takeWhile isNumberChar
    readNumberUpTo (numberOf? negative digits) cs (signSize cs + digits.length)
      (body.dropWhile isNumberChar)

/-- The selector behind the equals sign of a key, as far as it can be read, the number of its
characters and what follows. A position of more than 64 bits is refused, and so is a missing one,
where the fault is the next character. -/
def readSelector (cs : List Char) : Except Nat Selector × Nat × List Char :=
  match cs with
  | '*' :: '&' :: rest => (.ok .all, 2, rest)
  | '*' :: '|' :: rest => (.ok .any, 2, rest)
  | '*' :: rest => (.ok .join, 1, rest)
  | _ =>
    let digits := cs.takeWhile Char.isDigit
    let rest := cs.dropWhile Char.isDigit
    let size := digits.length
    if digits.isEmpty then (.error 1, 0, cs)
    else if 2 ^ (64 : Nat) ≤ digitsValue digits then (.error size, size, rest)
    else (.ok (.nth (UInt64.ofNat (digitsValue digits))), size, rest)

/-- The rest of a key in braces from its selector on, which stands at `start`. -/
def readSelected (name : String) (start : Nat) (cs : List Char) : Reading :=
  match readSelector cs with
  | (.error width, size, rest) =>
    .fail .invalidTagIndex start (start + width) (start + size) rest
  | (.ok s, size, '\x7d' :: rest) => .ok (.value (.tag ⟨name, s⟩)) (start + size + 1) rest
  | (.ok _, size, []) => failTaken (.unterminated .tagKey) (start + size) []
  | (.ok _, size, c :: rest) =>
    .fail .invalidTagIndex start (start + size + 1) (start + size) (c :: rest)

def readTagKey (cs : List Char) : Reading :=
  match cs.drop 1 with
  | '\x7b' :: body =>
    let size := 2 + Escaped.extent endsBracedName body
    match Escaped.decode endsBracedName body with
    | (_, []) => failTaken (.unterminated .tagKey) size []
    | (name, '=' :: rest) => readSelected (String.ofList name) (size + 1) rest
    | (name, _ :: rest) => .ok (.value (.tag ⟨String.ofList name, .unset⟩)) (size + 1) rest
  | body =>
    let name := body.takeWhile isBareNameChar
    if name.isEmpty then failTaken .emptyTagName 1 body
    else
      .ok (.value (.tag ⟨String.ofList name, .unset⟩)) (1 + name.length)
        (body.dropWhile isBareNameChar)

/-- The value of a keyword, in any case of ASCII letters. -/
def keyword? (word : List Char) : Option Value :=
  let lower := word.map Char.toLower
  if lower = "filename".toList then some .filename
  else if lower = "backend".toList then some .backend
  else if lower = "undef".toList then some .undef
  else none

def readKeyword (cs : List Char) : Reading :=
  let word := cs.takeWhile isIdentChar
  let rest := cs.dropWhile isIdentChar
  match keyword? word with
  | some v => .ok (.value v) word.length rest
  | none => failTaken (.unknownKeyword (String.ofList word)) word.length rest

/-- Reads the token at the front of a text that does not start with a blank. -/
def readToken (cs : List Char) : Reading :=
  match cs with
  | [] => .ok .finish 0 []
  | '!' :: '~' :: rest => .ok (.operator .notMatching) 2 rest
  | '!' :: '=' :: rest => .ok (.operator .notEqual) 2 rest
  | '!' :: rest => .ok .not 1 rest
  | '=' :: '=' :: rest => .ok (.operator .equal) 2 rest
  | '=' :: '~' :: rest => .ok (.operator .matching) 2 rest
  | '=' :: _ => .fail (.halvedOperator .comparison) 0 1 0 cs
  | '&' :: '&' :: rest => .ok (.connective .and) 2 rest
  | '&' :: _ => .fail (.halvedOperator .and) 0 1 0 cs
  | '|' :: '|' :: rest => .ok (.connective .or) 2 rest
  | '|' :: _ => .fail (.halvedOperator .or) 0 1 0 cs
  | '<' :: '=' :: rest => .ok (.operator .lessEqual) 2 rest
  | '<' :: rest => .ok (.operator .less) 1 rest
  | '>' :: '=' :: rest => .ok (.operator .greaterEqual) 2 rest
  | '>' :: rest => .ok (.operator .greater) 1 rest
  | '(' :: rest => .ok .openParen 1 rest
  | ')' :: rest => .ok .closeParen 1 rest
  | '"' :: _ => readString cs
  | '/' :: _ => readRegex cs
  | '%' :: _ => readTagKey cs
  | c :: _ =>
    if c.isDigit || c == '+' || c == '-' then readNumber cs
    else if Unicode.isAlphabetic c || c == '_' then readKeyword cs
    else .fail (.unexpectedChar c) 0 1 0 cs

end TagSieve
