import TagSieve.Regex.Memo

/-!
The draft of an automaton over bytes: how many states it has, what their steps take, and which
states may be shared. Every state takes 32 bytes. If it has several steps, each of them takes 8
bytes more when it reads a byte, and 4 when it reads nothing.
-/

namespace TagSieve.Regex

-- Powers are those of core, also where other instances are in scope.
attribute [local instance (high)] instPowNat

/-- Which way an automaton reads. -/
inductive Direction where
  | forwards
  | backwards
deriving DecidableEq

/-- The largest size of an automaton, in bytes. -/
def sizeLimit : Nat := 10 * 2 ^ (20 : Nat)

structure Draft where
  states : Nat
  /-- What the steps take, in bytes. -/
  steps : Nat
  shared : Memo

/-- A part of an automaton, drafted behind the parts before it. -/
abbrev Drafting := StateM Draft

namespace Draft

/-- The draft without states. -/
def empty : Direction → Draft
  | .forwards => ⟨0, 0, .ofSize 10000⟩
  | .backwards => ⟨0, 0, .ofSize 1000⟩

/-- The size of the automaton, in bytes. -/
def size (d : Draft) : Nat := 32 * d.states + d.steps

end Draft

namespace Drafting

/-- A new state and what its steps take. -/
def state (steps : Nat) : Drafting Nat :=
  modifyGet fun d => (d.states, { d with states := d.states + 1, steps := d.steps + steps })

/-- So many states with a lone step each. -/
def chain (n : Nat) : Drafting Unit := modify fun d => { d with states := d.states + n }

/-- A state with so many steps that each read a byte. -/
def fork (n : Nat) : Drafting Unit := discard (state (8 * n))

/-- A state with so many steps that read nothing. -/
def split (n : Nat) : Drafting Unit := discard (state (4 * n))

/-- The state of a key: the one that is remembered, or else a new one. -/
def share (key : List Nat) (steps : Nat) : Drafting Nat := do
  match (← get).shared.find? key with
  | some id => return id
  | none =>
    let id ← state steps
    modify fun d => { d with shared := d.shared.insert key id }
    return id

/-- So many copies of a part, or fewer when the limit is passed: then the size does not matter any
more. -/
def copies (part : Drafting Unit) : Nat → Drafting Unit
  | 0 => pure ()
  | n + 1 => do
    if (← get).size ≤ sizeLimit then
      part
      copies part n

/-- The choice between parts. -/
def choice : List (Drafting Unit) → Drafting Unit
  | [] => pure ()
  | [part] => part
  | first :: second :: rest => do
    first
    second
    split (2 + rest.length)
    chain 1
    rest.forM id

end Drafting

end TagSieve.Regex
