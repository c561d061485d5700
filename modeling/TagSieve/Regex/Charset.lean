import TagSieve.Unicode.Folding
import TagSieve.Unicode.Sixteen

/-!
Sets of characters as patterns write them: ranges, named classes, properties, and what brackets
build from those. What a set holds depends on two switches, whether case counts and whether classes
and cases reach beyond ASCII.
-/

namespace TagSieve.Regex

open Unicode

/-- The classes of the one-letter escapes. -/
inductive EscapeClass where
  | digit
  | space
  | word
deriving DecidableEq

/-- The classes of the bracketed names, all within ASCII. -/
inductive AsciiClass where
  | alnum | alpha | ascii | blank | cntrl | digit | graph | lower | print | punct | space | upper
  | word | xdigit
deriving DecidableEq

inductive Charset where
  | empty
  | range (low high : Char)
  | escape (negated : Bool) (k : EscapeClass)
  | ascii (negated : Bool) (k : AsciiClass)
  | property (negated : Bool) (r : Ranges)
  | bracket (negated : Bool) (body : Charset)
  | union (a b : Charset)
  | intersection (a b : Charset)
  | difference (a b : Charset)
  | symmetricDifference (a b : Charset)
deriving DecidableEq

namespace AsciiClass

def ofName? : List Char → Option AsciiClass
  | ['a', 'l', 'n', 'u', 'm'] => some alnum
  | ['a', 'l', 'p', 'h', 'a'] => some alpha
  | ['a', 's', 'c', 'i', 'i'] => some ascii
  | ['b', 'l', 'a', 'n', 'k'] => some blank
  | ['c', 'n', 't', 'r', 'l'] => some cntrl
  | ['d', 'i', 'g', 'i', 't'] => some digit
  | ['g', 'r', 'a', 'p', 'h'] => some graph
  | ['l', 'o', 'w', 'e', 'r'] => some lower
  | ['p', 'r', 'i', 'n', 't'] => some print
  | ['p', 'u', 'n', 'c', 't'] => some punct
  | ['s', 'p', 'a', 'c', 'e'] => some space
  | ['u', 'p', 'p', 'e', 'r'] => some upper
  | ['w', 'o', 'r', 'd'] => some word
  | ['x', 'd', 'i', 'g', 'i', 't'] => some xdigit
  | _ => none

def ranges : AsciiClass → Ranges
  | alnum => [(0x30, 0x39), (0x41, 0x5A), (0x61, 0x7A)]
  | alpha => [(0x41, 0x5A), (0x61, 0x7A)]
  | ascii => [(0, 0x7F)]
  | blank => [(0x09, 0x09), (0x20, 0x20)]
  | cntrl => [(0, 0x1F), (0x7F, 0x7F)]
  | digit => [(0x30, 0x39)]
  | graph => [(0x21, 0x7E)]
  | lower => [(0x61, 0x7A)]
  | print => [(0x20, 0x7E)]
  | punct => [(0x21, 0x2F), (0x3A, 0x40), (0x5B, 0x60), (0x7B, 0x7E)]
  | space => [(0x09, 0x0D), (0x20, 0x20)]
  | upper => [(0x41, 0x5A)]
  | word => [(0x30, 0x39), (0x41, 0x5A), (0x5F, 0x5F), (0x61, 0x7A)]
  | xdigit => [(0x30, 0x39), (0x41, 0x46), (0x61, 0x66)]

end AsciiClass

def EscapeClass.ranges (unicode : Bool) : EscapeClass → Ranges
  | digit => if unicode then Sixteen.digit else AsciiClass.ranges .digit
  | space => if unicode then Sixteen.space else AsciiClass.ranges .space
  | word => if unicode then Sixteen.word else AsciiClass.ranges .word

namespace Charset

/-- The characters of a set. Ignoring case widens a named class or a bracket before it is negated,
and each side of a set operation before the operation. -/
def ranges (ignoreCase unicode : Bool) : Charset → Ranges
  | empty => []
  | range low high => [(low.toNat, high.toNat)]
  | escape negated k => negateIf negated (k.ranges unicode)
  | ascii negated k => negateIf negated (widen ignoreCase unicode k.ranges)
  | property negated r => negateIf negated (widen ignoreCase unicode r)
  | bracket negated body =>
    negateIf negated (widen ignoreCase unicode (ranges ignoreCase unicode body))
  | union a b => (ranges ignoreCase unicode a).union (ranges ignoreCase unicode b)
  | intersection a b =>
    (widen ignoreCase unicode (ranges ignoreCase unicode a)).intersection
      (widen ignoreCase unicode (ranges ignoreCase unicode b))
  | difference a b =>
    (widen ignoreCase unicode (ranges ignoreCase unicode a)).difference
      (widen ignoreCase unicode (ranges ignoreCase unicode b))
  | symmetricDifference a b =>
    (widen ignoreCase unicode (ranges ignoreCase unicode a)).symmetricDifference
      (widen ignoreCase unicode (ranges ignoreCase unicode b))
where
  /-- A set together with the other cases of its members, if case does not count. -/
  widen (ignoreCase unicode : Bool) (r : Ranges) : Ranges :=
    if ignoreCase then r.withCases unicode else r
  negateIf (negated : Bool) (r : Ranges) : Ranges := if negated then r.complement else r

end Charset

end TagSieve.Regex
