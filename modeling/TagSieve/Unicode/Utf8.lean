import TagSieve.Unicode.Ranges.Algebra

/-!
The byte sequences of a set of characters in UTF-8. What may still follow is given by a number of
bytes and by offsets within all sequences of that number. Each range falls into whole blocks and
at most two parts of blocks, so that few steps are needed.
-/

namespace TagSieve.Unicode.Utf8

-- Powers are those of core, also where other instances are in scope.
attribute [local instance (high)] instPowNat

/-- A step over bytes that all lead to the same rest, given by offsets. -/
structure Branch where
  low : Nat
  high : Nat
  rest : Ranges

/-- The steps of the offsets from `a` to `b`, if the bytes from `base` on stand for a block of some
size each. -/
def Branch.ofRange (base size a b : Nat) : List Branch :=
  let first := a / size
  let last := b / size
  if first = last then [⟨base + first, base + last, [(a % size, b % size)]⟩]
  else
    let low := if a % size = 0 then first else first + 1
    let stop := if (b + 1) % size = 0 then last + 1 else last
    (if a % size = 0 then [] else [⟨base + first, base + first, [(a % size, size - 1)]⟩]) ++
      (if low < stop then [⟨base + low, base + stop - 1, [(0, size - 1)]⟩] else []) ++
      (if (b + 1) % size = 0 then [] else [⟨base + last, base + last, [(0, b % size)]⟩])

/-- Two steps over the same single byte are one. -/
def Branch.push (s : Branch) : List Branch → List Branch
  | [] => [s]
  | t :: rest =>
    if s.low = t.high then ⟨s.low, t.high, s.rest ++ t.rest⟩ :: rest else s :: t :: rest

/-- The steps of offsets over the bytes from `base` on when so many bytes follow each of them. -/
def branches (base following : Nat) (r : Ranges) : List Branch :=
  (r.flatMap fun (a, b) => Branch.ofRange base (64 ^ following) a b).foldr Branch.push []

/-- The characters with an encoding of so many further bytes. -/
def lengthClass : Nat → Ranges
  | 0 => [(0, 0x7F)]
  | 1 => [(0x80, 0x7FF)]
  | 2 => [(0x800, 0xD7FF), (0xE000, 0xFFFF)]
  | _ => [(0x10000, 0x10FFFF)]

/-- The first byte of offset zero before so many further bytes. -/
def firstByte : Nat → Nat
  | 0 => 0
  | 1 => 0xC0
  | 2 => 0xE0
  | _ => 0xF0

/-- The parts of ranges within others. -/
def clip (bounds r : Ranges) : Ranges :=
  bounds.flatMap fun (low, high) =>
    r.filterMap fun (a, b) =>
      if max low a ≤ min high b then some (max low a, min high b) else none

/-- The steps over the first byte, each with the number of bytes behind it. -/
def roots (r : Ranges) : List (Nat × Branch) :=
  [0, 1, 2, 3].flatMap fun n =>
    (branches (firstByte n) n (clip (lengthClass n) r)).map fun s => (n, s)

/-- The steps over a further byte with so many bytes behind it. -/
def further (following : Nat) (r : Ranges) : List Branch := branches 0x80 following r

/-- The sequences of so many further bytes. -/
def endings : Nat → Ranges → List (List (Nat × Nat))
  | 0, _ => [[]]
  | n + 1, r => (further n r).flatMap fun s => (endings n s.rest).map ((s.low, s.high) :: ·)

/-- The sequences of byte ranges that spell the characters of a set, in increasing order. -/
def sequences (r : Ranges) : List (List (Nat × Nat)) :=
  (roots r).flatMap fun (n, s) => (endings n s.rest).map ((s.low, s.high) :: ·)

end TagSieve.Unicode.Utf8
