/-!
What can be wrong with a JSON text, and where. Places are counted in bytes, lines from one; the
column is the number of bytes since the line began.
-/

namespace TagSieve

inductive JsonCause where
  | endInValue
  | endInList
  | endInObject
  | endInString
  | expectedValue
  | expectedIdent
  | expectedColon
  | expectedListEnd
  | expectedObjectEnd
  | keyNotString
  | trailingComma
  | trailingCharacters
  | invalidNumber
  | numberOutOfRange
  | invalidEscape
  | endOfHexEscape
  | loneSurrogate
  | controlCharacter
  | tooDeep
deriving DecidableEq

def JsonCause.message : JsonCause → String
  | endInValue => "EOF while parsing a value"
  | endInList => "EOF while parsing a list"
  | endInObject => "EOF while parsing an object"
  | endInString => "EOF while parsing a string"
  | expectedValue => "expected value"
  | expectedIdent => "expected ident"
  | expectedColon => "expected \x60:\x60"
  | expectedListEnd => "expected \x60,\x60 or \x60]\x60"
  | expectedObjectEnd => "expected \x60,\x60 or \x60\x7d\x60"
  | keyNotString => "key must be a string"
  | trailingComma => "trailing comma"
  | trailingCharacters => "trailing characters"
  | invalidNumber => "invalid number"
  | numberOutOfRange => "number out of range"
  | invalidEscape => "invalid escape"
  | endOfHexEscape => "unexpected end of hex escape"
  | loneSurrogate => "lone leading surrogate in hex escape"
  | controlCharacter => "control character (\\u0000-\\u001F) found while parsing a string"
  | tooDeep => "recursion limit exceeded"

structure JsonError where
  cause : JsonCause
  line : Nat
  column : Nat
deriving DecidableEq

namespace JsonError

def message (e : JsonError) : String :=
  e.cause.message ++ " at line " ++ toString e.line ++ " column " ++ toString e.column

/-- The number of bytes of a text in UTF-8. -/
def byteSize (cs : List Char) : Nat := (cs.map Char.utf8Size).foldr (· + ·) 0

/-- The line and column after so many bytes of a text that goes on from a place. -/
def placeAfter (line column : Nat) : Nat → List Char → Nat × Nat
  | _, [] => (line, column)
  | bytes, c :: rest =>
    if bytes < c.utf8Size then (line, column + bytes)
    else if c = '\n' then placeAfter (line + 1) 0 (bytes - 1) rest
    else placeAfter line (column + c.utf8Size) (bytes - c.utf8Size) rest

/-- An error so many bytes into a text. -/
def atByte (source : List Char) (cause : JsonCause) (bytes : Nat) : JsonError :=
  let (line, column) := placeAfter 1 0 bytes source
  ⟨cause, line, column⟩

end JsonError

end TagSieve
