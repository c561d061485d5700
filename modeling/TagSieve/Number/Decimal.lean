import TagSieve.Number.Binary64

/-!
Decimal numerals: digits as whole numbers, decimal values as the floating point numbers nearest to
them, and the shortest decimal that reads back as a given number.
-/

namespace TagSieve

/-- The value of a digit `0` to `9`. -/
def digitValue (c : Char) : Nat := c.toNat - '0'.toNat

/-- The whole number that a run of digits denotes. -/
def digitsValue (cs : List Char) : Nat := cs.foldl (fun n c => 10 * n + digitValue c) 0

/-- The decimal digits of a whole number, without leading zeros. -/
def decimalDigits (n : Nat) : List Char := Nat.toDigits 10 n

/-- The decimal numeral of a whole number with a sign. -/
def signedDigits (i : Int) : List Char :=
  if i < 0 then '-' :: decimalDigits i.natAbs else decimalDigits i.natAbs

namespace Binary64

-- Powers are those of core, also where other instances are in scope.
attribute [local instance (high)] instPowNat

/-- The number nearest to `n * 10 ^ e`. Exponents beyond every finite number are cut short without
computing the power. -/
def ofDecimal (negative : Bool) (n : Nat) (e : Int) : Binary64 :=
  if n = 0 then zero negative
  else if 400 < e then infinity negative
  else if e + (n.log2 + 1 : Nat) < -400 then zero negative
  else if 0 ≤ e then ofRatio negative (n * 10 ^ e.toNat) 1
  else ofRatio negative n (10 ^ (-e).toNat)

/-- A decimal `digits * 10 ^ exponent`. -/
structure Decimal where
  digits : Nat
  exponent : Int
deriving DecidableEq

/-- Whether `n / d < 10 ^ k`. -/
def belowPower (n d : Nat) (k : Int) : Bool :=
  if 0 ≤ k then decide (n < d * 10 ^ k.toNat) else decide (n * 10 ^ (-k).toNat < d)

/-- The least `k` with `n / d < 10 ^ k`, found near the logarithm to base two. -/
def decimalPoint (n d : Nat) : Int :=
  let guess : Int := ((n.log2 : Int) - d.log2) * 1233 / 4096
  if belowPower n d (guess - 1) then guess - 1
  else if belowPower n d guess then guess
  else if belowPower n d (guess + 1) then guess + 1
  else guess + 2

/-- The whole part of `n / d / 10 ^ k`, and how twice its remainder compares with one unit. -/
def gridFloor (n d : Nat) (k : Int) : Nat × Ordering :=
  let n := if k < 0 then n * 10 ^ (-k).toNat else n
  let d := if k < 0 then d else d * 10 ^ k.toNat
  (n / d, compare (2 * (n % d)) d)

/-- Which neighbour a value halfway between two takes. -/
inductive Tie where
  | upper
  | even

/-- Whether the lower of two neighbours is taken, from where the value stands to their middle. -/
def Tie.takesLower (tie : Tie) (low : Nat) : Ordering → Bool
  | .lt => true
  | .gt => false
  | .eq => match tie with
    | upper => false
    | even => low % 2 == 0

/-- Of the two neighbours of `x` on the grid of multiples of `10 ^ k`, the nearer one that reads
back as the magnitude of `x`. -/
def neighbour? (tie : Tie) (x : Binary64) (k : Int) : Option Decimal :=
  let (low, position) := gridFloor x.numerator unit k
  let reads (n : Nat) : Bool := (ofDecimal false n k).magnitude == x.magnitude
  match reads low, reads (low + 1) with
  | true, true => some ⟨if tie.takesLower low position then low else low + 1, k⟩
  | true, false => some ⟨low, k⟩
  | false, true => some ⟨low + 1, k⟩
  | false, false => none

/-- The decimal without zeros at its end, dropping at most `fuel` of them. -/
def Decimal.strip : Nat → Decimal → Decimal
  | 0, d => d
  | fuel + 1, d =>
    if d.digits % 10 = 0 then Decimal.strip fuel ⟨d.digits / 10, d.exponent + 1⟩ else d

/-- The exact value of a finite number: the denominator divides a power of ten. -/
def exactDecimal (x : Binary64) : Decimal := ⟨x.numerator * 5 ^ (1074 : Nat), -1074⟩

/-- The decimal with the fewest digits that reads back as the magnitude of a finite number, and the
nearest of those. Seventeen digits are enough for every number. -/
def shortest (tie : Tie) (x : Binary64) : Decimal :=
  if x.isZero then ⟨0, 0⟩
  else
    let point := decimalPoint x.numerator unit
    let found := (List.range 17).findSome? fun i => neighbour? tie x (point - (i + 1 : Nat))
    Decimal.strip 800 (found.getD (exactDecimal x))

/-- How the text of a number is laid out. -/
structure Layout where
  /-- Which of two equally near shortest decimals is written. -/
  tie : Tie
  /-- Whether a number whose first digit stands for `10 ^ k` is written without exponent. -/
  positional : Int → Bool
  /-- What follows a whole number in positional notation. -/
  wholeSuffix : List Char
  /-- What introduces an exponent that is not negative. -/
  exponentSign : List Char

/-- Digits and a decimal exponent in positional notation. -/
def positionalText (layout : Layout) (ds : List Char) (e : Int) : List Char :=
  if 0 ≤ e then ds ++ List.replicate e.toNat '0' ++ layout.wholeSuffix
  else
    let places := (-e).toNat
    if places < ds.length then
      ds.take (ds.length - places) ++ '.' :: ds.drop (ds.length - places)
    else '0' :: '.' :: (List.replicate (places - ds.length) '0' ++ ds)

/-- Digits with a point after the first, and the power of ten of that first digit. -/
def scientificText (layout : Layout) (ds : List Char) (k : Int) : List Char :=
  let fraction := ds.drop 1
  ds.take 1 ++ (if fraction.isEmpty then [] else '.' :: fraction) ++ 'e' ::
    (if 0 ≤ k then layout.exponentSign ++ decimalDigits k.toNat else signedDigits k)

/-- The text of a number that is no NaN, in its shortest digits. -/
def magnitudeText (layout : Layout) (x : Binary64) : List Char :=
  if x.isInfinite then ['i', 'n', 'f']
  else
    let d := x.shortest layout.tie
    let ds := decimalDigits d.digits
    let first := d.exponent + ds.length - 1
    if x.isZero || layout.positional first then positionalText layout ds d.exponent
    else scientificText layout ds first

def text (layout : Layout) (x : Binary64) : List Char :=
  if x.isNaN then ['N', 'a', 'N']
  else (if x.isNegative then ['-'] else []) ++ magnitudeText layout x

/-- Numbers as tag values see them: never an exponent, and whole numbers without a point. -/
def plainLayout : Layout := ⟨.upper, fun _ => true, [], []⟩

/-- Numbers in reports: an exponent below `10 ^ -4` and from `10 ^ 16` up. -/
def reportLayout : Layout :=
  ⟨.upper, fun k => decide (-4 ≤ k) && decide (k < 16), ['.', '0'], []⟩

/-- Numbers in records: an exponent below `10 ^ -5` and from `10 ^ 16` up, always with a sign. -/
def recordLayout : Layout :=
  ⟨.even, fun k => decide (-5 ≤ k) && decide (k < 16), ['.', '0'], ['+']⟩

end Binary64

end TagSieve
