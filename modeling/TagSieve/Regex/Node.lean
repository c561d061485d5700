import TagSieve.Regex.Form

/-!
The matching form of a pattern, and its search by marks. A mark on a character leaf says that a
match has just read its last character there. Reading one more character moves every mark on to
the leaves that may come next; starting a match in every gap makes the search unanchored. The time
is the size of the pattern times the length of the text.
-/

namespace TagSieve.Regex

open Unicode (Ranges)

inductive Node where
  | empty
  | look (a : Look)
  | leaf (marked : Bool) (s : Ranges)
  | cat (a b : Node)
  | alt (a b : Node)
  | star (a : Node)
deriving DecidableEq

namespace Node

/-- `n` copies of a node, and then another one. -/
def copies (r : Node) : Nat → Node → Node
  | 0, tail => tail
  | n + 1, tail => cat r (copies r n tail)

/-- At most `n` copies of a node. -/
def atMost (r : Node) : Nat → Node
  | 0 => empty
  | 1 => alt r empty
  | n + 1 => alt (cat r (atMost r n)) empty

/-- A counted repetition, unfolded. -/
def times (least : Nat) (most : Option Nat) (r : Node) : Node :=
  match most with
  | none => copies r least (star r)
  | some most => copies r least (atMost r (most - least))

/-- Whether the node matches the empty text in this gap. -/
def isNullable (g : Gap) : Node → Bool
  | empty => true
  | look a => g.satisfies a
  | leaf _ _ => false
  | cat a b => isNullable g a && isNullable g b
  | alt a b => isNullable g a || isNullable g b
  | star _ => true

/-- Whether a match that reached a marked leaf can be complete in this gap. -/
def isComplete (g : Gap) : Node → Bool
  | empty => false
  | look _ => false
  | leaf marked _ => marked
  | cat a b => isComplete g b || (isComplete g a && isNullable g b)
  | alt a b => isComplete g a || isComplete g b
  | star a => isComplete g a

/-- The marks after the character behind the gap; `enter` says whether a match may start here. -/
def shift (g : Gap) (c : Char) (enter : Bool) : Node → Node
  | empty => empty
  | look a => look a
  | leaf _ s => leaf (enter && s.covers c.toNat) s
  | cat a b =>
    cat (shift g c enter a) (shift g c ((enter && isNullable g a) || isComplete g a) b)
  | alt a b => alt (shift g c enter a) (shift g c enter b)
  | star a => star (shift g c (enter || isComplete g a) a)

/-- Searches the rest of a text whose last character so far is `before`. -/
def searchFrom (before : Option Char) (r : Node) : List Char → Bool
  | [] => isNullable ⟨before, none⟩ r || isComplete ⟨before, none⟩ r
  | c :: cs =>
    let g : Gap := ⟨before, some c⟩
    isNullable g r || isComplete g r || searchFrom (some c) (shift g c true r) cs

/-- Whether some stretch of the text matches. -/
def search (r : Node) (cs : List Char) : Bool := searchFrom none r cs

end Node

namespace Form

/-- The matching form for texts of fewer than `limit` characters. Of more rounds one would match
the empty text, and such a round can be left out or run again as often as needed. -/
def unfold (limit : Nat) : Form → Node
  | empty => .empty
  | look a => .look a
  | set s => .leaf false s
  | group _ body => unfold limit body
  | cat a b => .cat (unfold limit a) (unfold limit b)
  | alt a b => .alt (unfold limit a) (unfold limit b)
  | times least most _ body =>
    .times (min least limit) (most.map (min · limit)) (unfold limit body)

/-- Whether some stretch of the text matches. -/
def search (f : Form) (cs : List Char) : Bool := (f.unfold (cs.length + 1)).search cs

end Form

end TagSieve.Regex
