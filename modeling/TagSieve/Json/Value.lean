import TagSieve.Number.Decimal

/-!
JSON values, and their text on one line or indented.
-/

namespace TagSieve

/-- A number: whole, or the nearest floating point number. -/
inductive JsonNumber where
  | integer (i : Int)
  | float (x : Binary64)
deriving DecidableEq

def JsonNumber.chars : JsonNumber → List Char
  | integer i => signedDigits i
  | float x => x.text Binary64.recordLayout

/-- A value; the members of an object are in the order of their keys. -/
inductive Json where
  | null
  | bool (b : Bool)
  | number (n : JsonNumber)
  | string (s : String)
  | array (items : List Json)
  | object (members : List (String × Json))

namespace Json

/-- The order of keys, by code points. -/
def keyBefore (a b : String) : Bool :=
  List.compareLex (fun c d : Char => compare c.toNat d.toNat) a.toList b.toList == .lt

/-- Adds a member in its place; it replaces one of the same key. -/
def insertMember (key : String) (value : Json) : List (String × Json) → List (String × Json)
  | [] => [(key, value)]
  | (k, v) :: rest =>
    if k = key then (key, value) :: rest
    else if keyBefore key k then (key, value) :: (k, v) :: rest
    else (k, v) :: insertMember key value rest

/-- The value of a key. -/
def member? (key : String) (members : List (String × Json)) : Option Json :=
  members.lookup key

/-- The two lower-case hexadecimal digits of a number below 256. -/
def hexPair (n : Nat) : List Char :=
  [Nat.digitChar (n / 16), Nat.digitChar (n % 16)]

/-- One character inside a string. -/
def escapeChar (c : Char) : List Char :=
  match c with
  | '"' => ['\\', '"']
  | '\\' => ['\\', '\\']
  | '\x08' => ['\\', 'b']
  | '\x0c' => ['\\', 'f']
  | '\n' => ['\\', 'n']
  | '\r' => ['\\', 'r']
  | '\t' => ['\\', 't']
  | c => if c.toNat < 32 then ['\\', 'u', '0', '0'] ++ hexPair c.toNat else [c]

def stringChars (s : String) : List Char := '"' :: (s.toList.flatMap escapeChar ++ ['"'])

/-- A sequence of texts with commas between them. -/
def commas : List (List Char) → List Char
  | [] => []
  | [t] => t
  | t :: ts => t ++ ',' :: commas ts

mutual

/-- The text without any blank. -/
def compact : Json → List Char
  | null => "null".toList
  | bool b => if b then "true".toList else "false".toList
  | number n => n.chars
  | string s => stringChars s
  | array items => '[' :: (commas (compactItems items) ++ [']'])
  | object members => '\x7b' :: (commas (compactMembers members) ++ ['\x7d'])

def compactItems : List Json → List (List Char)
  | [] => []
  | v :: rest => compact v :: compactItems rest

def compactMembers : List (String × Json) → List (List Char)
  | [] => []
  | (key, v) :: rest => (stringChars key ++ ':' :: compact v) :: compactMembers rest

end

/-- The start of a line at some depth. -/
def newline (depth : Nat) : List Char := '\n' :: List.replicate (2 * depth) ' '

/-- Texts between brackets, one a line; nothing stands between brackets without texts. -/
def block (depth : Nat) (left right : Char) (parts : List (List Char)) : List Char :=
  if parts.isEmpty then [left, right]
  else left :: (commas (parts.map (newline (depth + 1) ++ ·)) ++ newline depth ++ [right])

mutual

/-- The text with one item or member a line, indented by two columns a level. -/
def pretty (depth : Nat) : Json → List Char
  | null => compact null
  | bool b => compact (bool b)
  | number n => n.chars
  | string s => stringChars s
  | array items => block depth '[' ']' (prettyItems (depth + 1) items)
  | object members => block depth '\x7b' '\x7d' (prettyMembers (depth + 1) members)

def prettyItems (depth : Nat) : List Json → List (List Char)
  | [] => []
  | v :: rest => pretty depth v :: prettyItems depth rest

def prettyMembers (depth : Nat) : List (String × Json) → List (List Char)
  | [] => []
  | (key, v) :: rest =>
    (stringChars key ++ ':' :: ' ' :: pretty depth v) :: prettyMembers depth rest

end

def compactText (v : Json) : String := String.ofList v.compact

def prettyText (v : Json) : String := String.ofList (v.pretty 0)

end Json

end TagSieve
