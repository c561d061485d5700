import TagSieve.Regex.Lexeme

/-!
The tree of a pattern, put together word by word.
-/

namespace TagSieve.Regex

/-- A group that is still open: whether it captures, its switches, its finished alternatives and
the members of the current one, both in reverse. -/
structure Frame where
  captures : Bool
  changes : List Change
  alternatives : List Tree
  members : List Tree

namespace Frame

def start (captures : Bool) (changes : List Change) : Frame := ⟨captures, changes, [], []⟩

def add (f : Frame) (t : Tree) : Frame := { f with members := t :: f.members }

/-- The alternative that is being read. -/
def current (f : Frame) : Tree := Tree.sequence f.members.reverse

def bar (f : Frame) : Frame :=
  { f with alternatives := f.current :: f.alternatives, members := [] }

/-- The tree between the parentheses. -/
def body (f : Frame) : Tree :=
  match (f.current :: f.alternatives).reverse with
  | [] => .empty
  | t :: ts => Tree.choice t ts

/-- Puts the last member under a repetition. -/
def times? (f : Frame) (least : Nat) (most : Option Nat) (lazy : Bool) : Option Frame :=
  match f.members with
  | t :: ts =>
    if t.isRepeatable then some { f with members := .times least most lazy t :: ts } else none
  | [] => none

end Frame

/-- The open groups, innermost first, and the whole pattern around them. -/
structure Stack where
  inner : List Frame
  outermost : Frame

namespace Stack

def start : Stack := ⟨[], .start false []⟩

/-- Changes the innermost frame. -/
def update (s : Stack) (f : Frame → Option Frame) : Option Stack :=
  match s.inner with
  | [] => (f s.outermost).map fun g => ⟨[], g⟩
  | top :: rest => (f top).map fun g => ⟨g :: rest, s.outermost⟩

/-- Takes one word in. -/
def step (s : Stack) : Lexeme → Option Stack
  | .atom t => s.update fun f => some (f.add t)
  | .bar => s.update fun f => some f.bar
  | .times least most lazy => s.update fun f => f.times? least most lazy
  | .opening captures changes _ =>
    some { s with inner := .start captures changes :: s.inner }
  | .closing =>
    match s.inner with
    | [] => none
    | top :: rest =>
      Stack.update ⟨rest, s.outermost⟩ fun f =>
        some (f.add (.group top.captures top.changes top.body))

/-- The tree of the pattern when every group is closed. -/
def finish? (s : Stack) : Option Tree :=
  if s.inner.isEmpty then some s.outermost.body else none

end Stack

/-- How deep a pattern may be nested. -/
def nestingLimit : Nat := 250

/-- The tree of a pattern, unless it is malformed or nested too deep. -/
def parse? (cs : List Char) : Option Tree := do
  let words ← lexemes cs
  let stack ← words.foldlM Stack.step Stack.start
  let t ← stack.finish?
  if t.nesting .none ≤ nestingLimit then some t else none

end TagSieve.Regex
