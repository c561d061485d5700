import TagSieve.Number.Decimal
import TagSieve.Operator
import TagSieve.Pattern
import TagSieve.Span
import TagSieve.TagKey

/-!
The values that conditions compare: literals, and what is looked up on each record.
-/

namespace TagSieve

inductive Value where
  | integer (n : Int64)
  | float (x : Binary64)
  | string (s : String)
  | regex (p : Pattern)
  | tag (key : TagKey)
  /-- The path of the record. -/
  | filename
  /-- The backend that read the record. -/
  | backend
  /-- No value at all. -/
  | undef
deriving DecidableEq

/-- Integers as filters write them. -/
def integerChars (n : Int64) : List Char := signedDigits n.toInt

/-- Floats as filters write them: always with a point, by which they are told from integers. -/
def floatChars (x : Binary64) : List Char :=
  let text := x.text Binary64.plainLayout
  if text.contains '.' then text else text ++ ['.', '0']

/-- Strings as filters write them. -/
def stringChars (s : String) : List Char :=
  '"' :: (Escaped.encode (· == '"') s.toList ++ ['"'])

/-- Patterns as filters write them. -/
def Pattern.chars (p : Pattern) : List Char :=
  '/' :: (Escaped.encode (· == '/') p.source.toList ++ ['/']) ++
    (if p.ignoreCase then ['i'] else []) ++ (if p.multiline then ['m'] else [])

namespace Value

/-- Whether the value changes from one record to the next. -/
def isDynamic : Value → Bool
  | tag _ | filename | backend => true
  | _ => false

def isRegex : Value → Bool
  | regex _ => true
  | _ => false

def isTag : Value → Bool
  | tag _ => true
  | _ => false

def isUndef : Value → Bool
  | undef => true
  | _ => false

/-- The value as filters write it. -/
def chars : Value → List Char
  | integer n => integerChars n
  | float x => floatChars x
  | string s => stringChars s
  | regex p => p.chars
  | tag key => key.chars
  | filename => "filename".toList
  | backend => "backend".toList
  | undef => "undef".toList

def text (v : Value) : String := String.ofList v.chars

/-- Equality of values; floats are compared as numbers. -/
def same : Value → Value → Bool
  | float x, float y => x.eqv y
  | a, b => a == b

end Value

/-- A value with the span of its literal. -/
structure Operand where
  value : Value
  span : Span
deriving DecidableEq

def Operand.same (a b : Operand) : Bool := a.value.same b.value && a.span == b.span

end TagSieve
