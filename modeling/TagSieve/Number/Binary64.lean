/-!
Floating point numbers of 64 bits, as their bit patterns. A finite number is a whole significand
times a power of two; every operation computes the exact result with whole numbers and rounds it
once, to the nearest number and on a tie to the even significand.
-/

namespace TagSieve

structure Binary64 where
  bits : UInt64
deriving DecidableEq, Inhabited

namespace Binary64

-- Powers are those of core, also where other instances are in scope.
attribute [local instance (high)] instPowNat

/-- The bit pattern without its sign. -/
def magnitude (x : Binary64) : Nat := x.bits.toNat % 2 ^ (63 : Nat)

def isNegative (x : Binary64) : Bool := decide (2 ^ (63 : Nat) ≤ x.bits.toNat)

/-- The magnitude of infinity; every NaN has a larger one. -/
def infinityMagnitude : Nat := 2047 * 2 ^ (52 : Nat)

def isNaN (x : Binary64) : Bool := decide (infinityMagnitude < x.magnitude)

def isInfinite (x : Binary64) : Bool := x.magnitude == infinityMagnitude

def isFinite (x : Binary64) : Bool := decide (x.magnitude < infinityMagnitude)

def isZero (x : Binary64) : Bool := x.magnitude == 0

/-- The number of a sign and a magnitude below `2 ^ 63`. -/
def ofMagnitude (negative : Bool) (m : Nat) : Binary64 :=
  ⟨UInt64.ofNat (m + if negative then 2 ^ (63 : Nat) else 0)⟩

def nan : Binary64 := ofMagnitude false (infinityMagnitude + 2 ^ (51 : Nat))

def infinity (negative : Bool) : Binary64 := ofMagnitude negative infinityMagnitude

def zero (negative : Bool) : Binary64 := ofMagnitude negative 0

/-- The same number with the other sign. -/
def neg (x : Binary64) : Binary64 := ofMagnitude (!x.isNegative) x.magnitude

/-- The whole significand of a finite number. -/
def significand (x : Binary64) : Nat :=
  if x.magnitude / 2 ^ (52 : Nat) = 0 then x.magnitude else x.magnitude % 2 ^ (52 : Nat) + 2 ^ (52 : Nat)

/-- The power of two of a finite number, counted from the smallest one, `2 ^ -1074`. -/
def scale (x : Binary64) : Nat := x.magnitude / 2 ^ (52 : Nat) - 1

/-- Numerator of the absolute value over `2 ^ 1074`. -/
def numerator (x : Binary64) : Nat := x.significand * 2 ^ x.scale

/-- The common denominator of all finite numbers. -/
def unit : Nat := 2 ^ (1074 : Nat)

/-- The whole number nearest to `n / d`, the even one on a tie. -/
def roundQuotient (n d : Nat) : Nat :=
  let q := n / d
  let r := n % d
  if 2 * r < d then q else if d < 2 * r then q + 1 else q + q % 2

/-- The magnitude of the number nearest to `n / d`. Its power of two, counted from the smallest
one, is the least that leaves a quotient below `2 ^ 53`; a carry out of the significand moves on
to the next power by itself. -/
def roundMagnitude (n d : Nat) : Nat :=
  let n := n * unit
  let guess := n.log2 - d.log2 - 53
  let power := if n / (d * 2 ^ guess) < 2 ^ (53 : Nat) then guess else guess + 1
  min (power * 2 ^ (52 : Nat) + roundQuotient n (d * 2 ^ power)) infinityMagnitude

/-- The number nearest to `n / d` with a sign. -/
def ofRatio (negative : Bool) (n d : Nat) : Binary64 :=
  ofMagnitude negative (if n = 0 then 0 else roundMagnitude n d)

def ofInt (i : Int) : Binary64 := ofRatio (decide (i < 0)) i.natAbs 1

/-- Position of a number on the line; both zeros share one. -/
def rank (x : Binary64) : Int := if x.isNegative then -(x.magnitude : Int) else x.magnitude

/-- The order of two numbers; a NaN has none with anything. -/
def compare? (x y : Binary64) : Option Ordering :=
  if x.isNaN || y.isNaN then none else some (compare x.rank y.rank)

/-- Equality of values: zeros are equal, a NaN differs from itself. -/
def eqv (x y : Binary64) : Bool := x.compare? y == some .eq

/-- The value without its fraction, moved into the range of 64-bit integers; a NaN gives zero. -/
def truncate (x : Binary64) : Int64 :=
  let size : Nat := if x.isFinite then x.numerator / unit else 2 ^ (63 : Nat)
  if x.isNaN then 0
  else if x.isNegative then Int64.ofInt (-(min size (2 ^ (63 : Nat)) : Nat))
  else Int64.ofInt (min size (2 ^ (63 : Nat) - 1) : Nat)

def mul (x y : Binary64) : Binary64 :=
  let negative := x.isNegative != y.isNegative
  if x.isNaN || y.isNaN || (x.isInfinite && y.isZero) || (x.isZero && y.isInfinite) then nan
  else if x.isInfinite || y.isInfinite then infinity negative
  else ofRatio negative (x.numerator * y.numerator) (unit * unit)

def div (x y : Binary64) : Binary64 :=
  let negative := x.isNegative != y.isNegative
  if x.isNaN || y.isNaN || (x.isInfinite && y.isInfinite) || (x.isZero && y.isZero) then nan
  else if x.isInfinite || y.isZero then infinity negative
  else if y.isInfinite then zero negative
  else ofRatio negative x.numerator y.numerator

end Binary64

end TagSieve
