import TagSieve.Unicode.Ranges

/-!
Unions, complements and the operations built from those. The results are canonical: in increasing
order, with a gap between any two ranges. Surrogates are no characters, so no complement holds any.
-/

namespace TagSieve.Unicode.Ranges

/-- Joins a range with those behind it that overlap or touch it. -/
def absorb (low high : Nat) : Ranges → Ranges
  | [] => [(low, high)]
  | (a, b) :: rest =>
    if a ≤ high + 1 then absorb low (max high b) rest else (low, high) :: absorb a b rest

/-- The canonical form of ranges in increasing order of their lower ends. -/
def coalesce : Ranges → Ranges
  | [] => []
  | (a, b) :: rest => absorb a b rest

/-- Whether one range does not start behind another. -/
def startsBefore (p q : Nat × Nat) : Bool := decide (p.1 ≤ q.1)

/-- The canonical form of ranges in any order. -/
def ofPairs (ps : List (Nat × Nat)) : Ranges := coalesce (ps.mergeSort startsBefore)

def union (r s : Ranges) : Ranges := coalesce (List.merge r s startsBefore)

/-- The largest code point. -/
def lastCodePoint : Nat := 0x10FFFF

def surrogates : Ranges := [(0xD800, 0xDFFF)]

/-- The code points from `start` on that no range covers. -/
def gaps (start : Nat) : Ranges → Ranges
  | [] => if start ≤ lastCodePoint then [(start, lastCodePoint)] else []
  | (a, b) :: rest =>
    if start < a then (start, a - 1) :: gaps (max start (b + 1)) rest
    else gaps (max start (b + 1)) rest

/-- The characters outside the ranges. -/
def complement (r : Ranges) : Ranges := gaps 0 (r.union surrogates)

/-- Every character. -/
def allCharacters : Ranges := complement []

def intersection (r s : Ranges) : Ranges := complement (union r.complement s.complement)

def difference (r s : Ranges) : Ranges := complement (union r.complement s)

def symmetricDifference (r s : Ranges) : Ranges := (r.difference s).union (s.difference r)

/-- The union of several sets. -/
def unionAll (rs : List Ranges) : Ranges := ofPairs rs.flatten

end TagSieve.Unicode.Ranges
