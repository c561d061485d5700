import TagSieve.Regex.Tree

/-!
What an anchor asks of the place between two characters of a text, once the switches are settled.
-/

namespace TagSieve.Regex

/-- A place between two characters of a text. -/
structure Gap where
  before : Option Char
  after : Option Char

/-- What an anchor asks of a gap. -/
inductive Look where
  | textStart
  | textEnd
  | lineStart
  | lineEnd
  | lineStartAnyReturn
  | lineEndAnyReturn
  | word (unicode : Bool) (condition : Anchor)
deriving DecidableEq

namespace Gap

def isWord (unicode : Bool) (c : Char) : Bool :=
  (EscapeClass.word.ranges unicode).covers c.toNat

def isWordBefore (unicode : Bool) (g : Gap) : Bool := (g.before.map (isWord unicode)).getD false

def isWordAfter (unicode : Bool) (g : Gap) : Bool := (g.after.map (isWord unicode)).getD false

/-- What the anchors about words ask of the sides of a gap. -/
def wordCondition (before after : Bool) : Anchor → Bool
  | .wordBoundary => before != after
  | .noWordBoundary => before == after
  | .wordStart => !before && after
  | .wordEnd => before && !after
  | .wordStartHalf => !before
  | .wordEndHalf => !after
  | _ => false

def satisfies (g : Gap) : Look → Bool
  | .textStart => g.before.isNone
  | .textEnd => g.after.isNone
  | .lineStart => g.before.isNone || g.before == some '\n'
  | .lineEnd => g.after.isNone || g.after == some '\n'
  | .lineStartAnyReturn =>
    g.before.isNone || g.before == some '\n' || (g.before == some '\r' && g.after != some '\n')
  | .lineEndAnyReturn =>
    g.after.isNone || g.after == some '\r' || (g.after == some '\n' && g.before != some '\r')
  | .word unicode a => wordCondition (g.isWordBefore unicode) (g.isWordAfter unicode) a

end Gap

end TagSieve.Regex
