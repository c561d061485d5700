import TagSieve.Regex.Charset

/-!
The structure of a pattern as written, with its switches still in place.
-/

namespace TagSieve.Regex

/-- What the letters in an inline group switch. -/
inductive Switch where
  | ignoreCase
  | multiLine
  | dotAll
  | swapGreed
  | unicode
  | carriageReturn
  | verbose
deriving DecidableEq

/-- A switch and whether it is turned on. -/
abbrev Change := Switch × Bool

/-- Places in a text that a pattern can ask for. -/
inductive Anchor where
  | lineStart
  | lineEnd
  | textStart
  | textEnd
  | wordBoundary
  | noWordBoundary
  | wordStart
  | wordEnd
  | wordStartHalf
  | wordEndHalf
deriving DecidableEq

inductive Tree where
  | empty
  | literal (c : Char)
  /-- A character given by two hexadecimal digits. Without Unicode it is a byte. -/
  | byte (c : Char)
  | dot
  | anchor (a : Anchor)
  | set (s : Charset)
  | changes (cs : List Change)
  | group (captures : Bool) (cs : List Change) (body : Tree)
  | cat (a b : Tree)
  | alt (a b : Tree)
  | times (least : Nat) (most : Option Nat) (lazy : Bool) (body : Tree)
deriving DecidableEq

namespace Charset

/-- The set with one more member behind the others. -/
def add (s item : Charset) : Charset :=
  if s = empty then item else union s item

/-- How deep the operations of a bracket are nested; the members of a union share one level. -/
def nesting (inUnion : Bool) : Charset → Nat
  | union a b => (if inUnion then 0 else 1) + max (nesting true a) (nesting false b)
  | bracket _ body => 1 + nesting false body
  | intersection a b => 1 + max (nesting false a) (nesting false b)
  | difference a b => 1 + max (nesting false a) (nesting false b)
  | symmetricDifference a b => 1 + max (nesting false a) (nesting false b)
  | _ => 0

end Charset

namespace Tree

/-- The sequence of several trees. -/
def sequence : List Tree → Tree
  | [] => empty
  | [t] => t
  | t :: ts => cat t (sequence ts)

/-- The choice between several trees, at least one of them. -/
def choice (t : Tree) : List Tree → Tree
  | [] => t
  | u :: us => alt t (choice u us)

/-- Which chain a tree is a link of. -/
inductive Chain where
  | none
  | cat
  | alt
deriving DecidableEq

/-- How deep a tree is nested; the links of a sequence or of a choice share one level. -/
def nesting (chain : Chain) : Tree → Nat
  | set s => s.nesting false
  | group _ _ body => 1 + nesting .none body
  | times _ _ _ body => 1 + nesting .none body
  | cat a b => (if chain = .cat then 0 else 1) + max (nesting .none a) (nesting .cat b)
  | alt a b => (if chain = .alt then 0 else 1) + max (nesting .none a) (nesting .alt b)
  | _ => 0

/-- Whether a repetition may follow: it needs something to repeat. -/
def isRepeatable : Tree → Bool
  | empty | changes _ => false
  | _ => true

end Tree

end TagSieve.Regex
