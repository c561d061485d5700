/-!
A memory with a fixed number of places, for results that are worth remembering but can be found
again. The place of a key follows from its hash, and what is stored in a place drives out what was
there before.
-/

namespace TagSieve.Regex

/-- Places, filed by the binary digits of their numbers with the lowest digit first. -/
inductive Places where
  | unused
  | used (key : List Nat) (value : Nat)
  | fork (even odd : Places)

namespace Places

/-- What is stored in a place. -/
def find? : Places → Nat → Option (List Nat × Nat)
  | unused, _ => none
  | used key value, _ => some (key, value)
  | fork even odd, place => if place % 2 = 0 then even.find? (place / 2) else odd.find? (place / 2)

/-- Stores something in a place with so many digits. -/
def insert (key : List Nat) (value : Nat) : (digits place : Nat) → Places → Places
  | 0, _, _ => used key value
  | digits + 1, place, p =>
    let (even, odd) := match p with
      | fork even odd => (even, odd)
      | _ => (unused, unused)
    if place % 2 = 0 then fork (even.insert key value digits (place / 2)) odd
    else fork even (odd.insert key value digits (place / 2))

end Places

structure Memo where
  size : Nat
  places : Places

namespace Memo

/-- The empty memory of so many places. -/
def ofSize (n : Nat) : Memo := ⟨n, .unused⟩

/-- The hash of a key. Each number is mixed in and spread by a prime, in 64 bits. -/
def hash (key : List Nat) : UInt64 :=
  key.foldl (fun h n => (h ^^^ n.toUInt64) * 1099511628211) 14695981039346656037

/-- The place of a key. -/
def place (m : Memo) (key : List Nat) : Nat := (hash key % m.size.toUInt64).toNat

/-- What was stored for a key, unless another key has driven it out. -/
def find? (m : Memo) (key : List Nat) : Option Nat :=
  match m.places.find? (m.place key) with
  | some (k, value) => if k = key then some value else none
  | none => none

def insert (m : Memo) (key : List Nat) (value : Nat) : Memo :=
  { m with places := m.places.insert key value (m.size.log2 + 1) (m.place key) }

end Memo

end TagSieve.Regex
