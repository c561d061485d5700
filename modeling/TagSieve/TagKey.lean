import TagSieve.Text.Escaped

/-!
References to tags. A tag may have several values; a selector says which of them take part in a
comparison.
-/

namespace TagSieve

inductive Selector where
  /-- No selector is written: all values, joined. -/
  | unset
  /-- The value at a position, counted from zero. -/
  | nth (n : UInt64)
  /-- `*`: all values, joined. -/
  | join
  /-- `*&`: every value on its own. -/
  | all
  /-- `*|`: any value on its own. -/
  | any
deriving DecidableEq, Inhabited

structure TagKey where
  name : String
  selector : Selector
deriving DecidableEq

/-- The characters of names that need no braces. -/
def isBareNameChar (c : Char) : Bool := c.isAlphanum || c == '_' || c == '-'

/-- The characters that end a name in braces. -/
def endsBracedName (c : Char) : Bool := c == '\x7d' || c == '='

def Selector.chars : Selector → List Char
  | unset => []
  | nth n => '=' :: Nat.toDigits 10 n.toNat
  | join => ['=', '*']
  | all => ['=', '*', '&']
  | any => ['=', '*', '|']

namespace TagKey

/-- Whether the key is written without braces. -/
def isBare (k : TagKey) : Bool :=
  k.selector == .unset && !k.name.toList.isEmpty && k.name.toList.all isBareNameChar

/-- The key as filters write it. -/
def chars (k : TagKey) : List Char :=
  if k.isBare then '%' :: k.name.toList
  else
    ['%', '\x7b'] ++ Escaped.encode endsBracedName k.name.toList ++ k.selector.chars ++ ['\x7d']

end TagKey

end TagSieve
