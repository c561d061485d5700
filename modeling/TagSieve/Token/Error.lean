import TagSieve.Span

/-!
What can be wrong with a token.
-/

namespace TagSieve

/-- The literals that a delimiter closes. -/
inductive Delimited where
  | string
  | regex
  | tagKey
deriving DecidableEq

namespace Delimited

def name : Delimited → String
  | string => "string"
  | regex => "regex"
  | tagKey => "tag key"

def delimiter : Delimited → Char
  | string => '"'
  | regex => '/'
  | tagKey => '\x7d'

end Delimited

/-- The operators of which only the first character was found. -/
inductive Halved where
  | and
  | or
  | comparison
deriving DecidableEq

def Halved.expected : Halved → String
  | and => "'&&'"
  | or => "'||'"
  | comparison => "'==' or '=~' (a single '=' is not an operator)"

/-- Why a regular expression does not compile, in the words of the library that compiles it. They
follow from the source and the two flags. -/
abbrev RegexWording := (source : String) → (ignoreCase multiline : Bool) → String

/-- A wording without a reason: the first two lines of the library's own for a source on one
line. -/
def RegexWording.brief : RegexWording := fun source _ _ => "regex parse error:\n    " ++ source

inductive LexCause where
  | unexpectedChar (found : Char)
  | halvedOperator (h : Halved)
  | invalidNumber (text : String)
  | unterminated (d : Delimited)
  | duplicateRegexFlag (flag : Char)
  | invalidRegex (source : String) (ignoreCase multiline : Bool)
  | emptyTagName
  | invalidTagIndex
  | unknownKeyword (word : String)
deriving DecidableEq

structure LexError where
  cause : LexCause
  span : Span
deriving DecidableEq

namespace LexError

/-- The error seen from a text in which `n` more characters come first. -/
def shift (n : Nat) (e : LexError) : LexError := { e with span := e.span.shift n }

def message (wording : RegexWording) (e : LexError) : String :=
  match e.cause with
  | .unexpectedChar found =>
    "unexpected character '" ++ String.singleton found ++ "' at position " ++
      toString e.span.start
  | .halvedOperator h => "expected " ++ h.expected ++ " at position " ++ toString e.span.start
  | .invalidNumber text => "malformed number '" ++ text ++ "'"
  | .unterminated d =>
    "unterminated " ++ d.name ++ ", missing closing '" ++ String.singleton d.delimiter ++ "'"
  | .duplicateRegexFlag flag => "regex option '" ++ String.singleton flag ++ "' given twice"
  | .invalidRegex source ignoreCase multiline =>
    "can't compile regex: " ++ wording source ignoreCase multiline
  | .emptyTagName => "empty tag name after '%' (use %\x7b\x7d for the empty key)"
  | .invalidTagIndex => "invalid tag index, expected a number, '*', '*&' or '*|'"
  | .unknownKeyword word =>
    "unknown keyword '" ++ word ++ "', expected 'filename', 'backend' or 'undef'"

/-- The message above the source with the offending part underlined. -/
def render (wording : RegexWording) (e : LexError) (source : String) : String :=
  "lexer error: " ++ e.message wording ++ "\n" ++ e.span.underline source

end LexError

end TagSieve
