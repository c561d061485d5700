import TagSieve.Regex.Look

/-!
A pattern with its switches settled: every leaf is a set of characters or a question about a gap.
-/

namespace TagSieve.Regex

open Unicode (Ranges)

/-- The settings that switches change. -/
structure Modes where
  ignoreCase : Bool
  multiLine : Bool
  dotAll : Bool
  unicode : Bool
  carriageReturn : Bool
  swapGreed : Bool
deriving DecidableEq

namespace Modes

def change (m : Modes) : Change → Modes
  | (.ignoreCase, on) => { m with ignoreCase := on }
  | (.multiLine, on) => { m with multiLine := on }
  | (.dotAll, on) => { m with dotAll := on }
  | (.unicode, on) => { m with unicode := on }
  | (.carriageReturn, on) => { m with carriageReturn := on }
  | (.swapGreed, on) => { m with swapGreed := on }
  | (.verbose, _) => m

def changeAll (m : Modes) (cs : List Change) : Modes := cs.foldl change m

/-- The characters that a literal stands for. -/
def literalSet (m : Modes) (c : Char) : Ranges :=
  if m.ignoreCase then Ranges.withCases m.unicode [(c.toNat, c.toNat)] else [(c.toNat, c.toNat)]

/-- The characters that a dot stands for. -/
def dotSet (m : Modes) : Ranges :=
  if m.dotAll then .allCharacters
  else if m.carriageReturn then Ranges.complement [(0x0A, 0x0A), (0x0D, 0x0D)]
  else Ranges.complement [(0x0A, 0x0A)]

def look (m : Modes) : Anchor → Look
  | .lineStart =>
    if !m.multiLine then .textStart else if m.carriageReturn then .lineStartAnyReturn
    else .lineStart
  | .lineEnd =>
    if !m.multiLine then .textEnd else if m.carriageReturn then .lineEndAnyReturn else .lineEnd
  | .textStart => .textStart
  | .textEnd => .textEnd
  | a => .word m.unicode a

end Modes

/-- Whether a set may be used without Unicode: it names no property, and neither its members nor
what its negations add lie outside ASCII. -/
def Charset.staysInAscii : Charset → Bool
  | empty => true
  | range _ high => decide (high.toNat < 128)
  | escape negated _ => !negated
  | ascii negated _ => !negated
  | property _ _ => false
  | bracket negated body => !negated && staysInAscii body
  | union a b | intersection a b | symmetricDifference a b => staysInAscii a && staysInAscii b
  | difference a b => staysInAscii a && staysInAscii b

inductive Form where
  | empty
  | look (a : Look)
  | set (s : Ranges)
  | group (captures : Bool) (body : Form)
  | cat (a b : Form)
  | alt (a b : Form)
  | times (least : Nat) (most : Option Nat) (lazy : Bool) (body : Form)
deriving DecidableEq

namespace Form

/-- Whether every match is empty. -/
def isZeroWidth : Form → Bool
  | empty | look _ => true
  | set _ => false
  | group _ body => isZeroWidth body
  | cat a b => isZeroWidth a && isZeroWidth b
  | alt a b => isZeroWidth a && isZeroWidth b
  | times _ most _ body => most == some 0 || isZeroWidth body

/-- A repetition. What matches only the empty text needs no second round: it would do as well as
the first one. -/
def repeated (least : Nat) (most : Option Nat) (lazy : Bool) (body : Form) : Form :=
  if body.isZeroWidth then times (min least 1) (some (min (most.getD 1) 1)) lazy body
  else times least most lazy body

end Form

namespace Tree

/-- Whether the switches allow every part of the tree: where Unicode is off, a dot, a byte and a
set that reaches beyond ASCII would match parts of characters. Also gives the settings behind the
tree. -/
def allowed (m : Modes) : Tree → Bool × Modes
  | dot => (m.unicode, m)
  | byte c => (m.unicode || decide (c.toNat < 128), m)
  | set s => (m.unicode || s.staysInAscii, m)
  | changes cs => (true, m.changeAll cs)
  | group _ cs body => ((allowed (m.changeAll cs) body).1, m)
  | cat a b | alt a b =>
    let (left, m) := allowed m a
    let (right, m) := allowed m b
    (left && right, m)
  | times _ _ _ body => allowed m body
  | _ => (true, m)

/-- The form of a tree under some settings, and the settings behind it. -/
def toForm (m : Modes) : Tree → Form × Modes
  | empty => (.empty, m)
  | literal c | byte c => (.set (m.literalSet c), m)
  | dot => (.set m.dotSet, m)
  | anchor a => (.look (m.look a), m)
  | set s => (.set (s.ranges m.ignoreCase m.unicode), m)
  | changes cs => (.empty, m.changeAll cs)
  | group captures cs body => (.group captures (toForm (m.changeAll cs) body).1, m)
  | cat a b =>
    let (left, m) := toForm m a
    let (right, m) := toForm m b
    (.cat left right, m)
  | alt a b =>
    let (left, m) := toForm m a
    let (right, m) := toForm m b
    (.alt left right, m)
  | times least most lazy body =>
    let (r, m) := toForm m body
    (r.repeated least most (lazy != m.swapGreed), m)

end Tree

end TagSieve.Regex
