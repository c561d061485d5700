import TagSieve.Number.Decimal

/-!
Texts that denote a number as a whole: a sign, if there is one, and a numeral or the word for
infinity or for no number at all.
-/

namespace TagSieve

/-- Takes a sign off the front. -/
def splitSign : List Char → Bool × List Char
  | '-' :: rest => (true, rest)
  | '+' :: rest => (false, rest)
  | cs => (false, cs)

/-- The number of signs at the front, none or one. -/
def signSize : List Char → Nat
  | '-' :: _ | '+' :: _ => 1
  | _ => 0

/-- A numeral split into its digits before and after the point and its exponent. -/
structure Numeral where
  whole : List Char
  fraction : List Char
  exponent : Int

/-- The number that a numeral denotes. -/
def Numeral.value (negative : Bool) (n : Numeral) : Binary64 :=
  Binary64.ofDecimal negative (digitsValue (n.whole ++ n.fraction))
    (n.exponent - n.fraction.length)

/-- The fraction behind a point: its digits and the rest. Without a point nothing is taken. -/
def splitFraction : List Char → List Char × List Char
  | '.' :: rest => (rest.takeWhile Char.isDigit, rest.dropWhile Char.isDigit)
  | cs => ([], cs)

/-- The exponent that is all of a text, zero for none. -/
def exponent? : List Char → Option Int
  | c :: rest =>
    let (negative, digits) := splitSign rest
    let size : Int := digitsValue digits
    if (c = 'e' ∨ c = 'E') ∧ digits ≠ [] ∧ digits.all Char.isDigit then
      some (if negative then -size else size)
    else none
  | [] => some 0

/-- The numeral that is all of a text without sign. There is at least one digit before or after the
point. -/
def numeral? (cs : List Char) : Option Numeral :=
  let whole := cs.takeWhile Char.isDigit
  let (fraction, rest) := splitFraction (cs.dropWhile Char.isDigit)
  if whole.isEmpty && fraction.isEmpty then none
  else (exponent? rest).map fun e => ⟨whole, fraction, e⟩

/-- The number that a text denotes as a whole, if it denotes one. Words count in any case. -/
def Binary64.ofText? (cs : List Char) : Option Binary64 :=
  let (negative, body) := splitSign cs
  let word := body.map Char.toLower
  if word = "inf".toList ∨ word = "infinity".toList then some (infinity negative)
  else if word = "nan".toList then some (if negative then nan.neg else nan)
  else (numeral? body).map (Numeral.value negative)

end TagSieve
