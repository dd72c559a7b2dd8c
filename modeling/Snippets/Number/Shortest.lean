import Snippets.Number.Binary64

/-!
# The shortest text of a floating-point number

A finite number is written with the fewest decimal digits that read back as the
same number; of two such texts the nearer one is taken.  Exponents from -4 to 15
are written in positional notation, with at least one digit after the point.
-/

namespace Snippets
namespace Number

/-- A decimal number: its digits without a point, and the power of ten of the last
one. -/
structure Decimal where
  /-- The digits as one whole number. -/
  digits : Nat
  /-- The power of ten of the last digit. -/
  exponent : Int
  deriving DecidableEq, Repr

namespace Decimal

/-- The numerator and denominator of a decimal number. -/
def ratio (decimal : Decimal) : Nat × Nat :=
  if 0 ≤ decimal.exponent then (decimal.digits * Nat.pow 10 decimal.exponent.toNat, 1)
  else (decimal.digits, Nat.pow 10 (-decimal.exponent).toNat)

/-- How far a decimal number is from `units / one`, as a numerator over the product
of both denominators. -/
def distance (decimal : Decimal) (units : Nat) : Nat × Nat :=
  let (numerator, denominator) := decimal.ratio
  let left := numerator * Binary64.one
  let right := units * denominator
  ((left - right) + (right - left), denominator)

/-- The power of ten below a positive quotient, found by counting up from a lower
estimate. -/
def magnitude (numerator denominator : Nat) : Nat → Int → Int
  | 0, estimate => estimate
  | fuel + 1, estimate =>
      let next := estimate + 1
      let reached :=
        if 0 ≤ next then decide (denominator * Nat.pow 10 next.toNat ≤ numerator)
        else decide (denominator ≤ numerator * Nat.pow 10 (-next).toNat)
      if reached then magnitude numerator denominator fuel next else estimate

/-- A decimal number without zeros at its end. -/
def trim : Nat → Decimal → Decimal
  | 0, decimal => decimal
  | fuel + 1, decimal =>
      if decimal.digits ≠ 0 ∧ decimal.digits % 10 = 0 then
        trim fuel ⟨decimal.digits / 10, decimal.exponent + 1⟩
      else decimal

/-- The two neighbours of `units / one` among the multiples of a power of ten. -/
def neighbours (units : Nat) (exponent : Int) : Decimal × Decimal :=
  let floor :=
    if 0 ≤ exponent then units / (Binary64.one * Nat.pow 10 exponent.toNat)
    else units * Nat.pow 10 (-exponent).toNat / Binary64.one
  (⟨floor, exponent⟩, ⟨floor + 1, exponent⟩)

/-- Whether a decimal number reads back as the number with these units. -/
def readsBack (decimal : Decimal) (units : Nat) : Bool :=
  Binary64.ofDecimal false decimal.digits decimal.exponent == .finite false units

/-- The neighbour that reads back, the nearer if both do, and of two at the same
distance the even one. -/
def pick (units : Nat) (low high : Decimal) : Option Decimal :=
  match low.readsBack units, high.readsBack units with
  | false, false => none
  | true, false => some low
  | false, true => some high
  | true, true =>
      let below := (low.distance units).1
      let above := (high.distance units).1
      if below < above then some low
      else if above < below then some high
      else if low.digits % 2 = 0 then some low
      else some high

/-- The first grid with a decimal number that reads back, from the coarsest on. -/
def shortestFrom (units : Nat) : Nat → Int → Decimal
  | 0, exponent => (neighbours units exponent).1
  | fuel + 1, exponent =>
      let (low, high) := neighbours units exponent
      match pick units low high with
      | some decimal => decimal
      | none => shortestFrom units fuel (exponent - 1)

/-- The shortest decimal number that reads back as a positive number of units. -/
def shortest (units : Nat) : Decimal :=
  let estimate := magnitude units Binary64.one 700 (-330)
  trim 400 (shortestFrom units 18 estimate)

end Decimal

/-- Digits with a point after the first `count` of them, and zeros where digits are
missing. -/
def placePoint (digits : List Char) (count : Int) : List Char :=
  if count ≤ 0 then
    '0' :: '.' :: (List.replicate (-count).toNat '0' ++ digits)
  else
    let whole := digits.take count.toNat
    let fraction := digits.drop count.toNat
    whole ++ List.replicate (count.toNat - digits.length) '0' ++ '.' ::
      (if fraction = [] then ['0'] else fraction)

/-- The sign and at least two digits of an exponent. -/
def exponentText (exponent : Int) : List Char :=
  let digits := Nat.toDigits 10 exponent.natAbs
  (if exponent < 0 then '-' else '+') :: (List.replicate (2 - digits.length) '0' ++ digits)

/-- The shortest text of a number of units. -/
def magnitudeText (units : Nat) : List Char :=
  if units = 0 then ['0', '.', '0']
  else
    let decimal := Decimal.shortest units
    let digits := Nat.toDigits 10 decimal.digits
    let point := (digits.length : Int) + decimal.exponent
    if -4 < point ∧ point ≤ 16 then placePoint digits point
    else
      let fraction := digits.drop 1
      digits.take 1 ++ (if fraction = [] then [] else '.' :: fraction) ++
        'e' :: exponentText (point - 1)

namespace Binary64

/-- The shortest text of a floating-point number. -/
def text : Binary64 → String
  | finite negative units =>
      String.ofList ((if negative then ['-'] else []) ++ magnitudeText units)
  | infinite negative => if negative then "-inf" else "inf"
  | nan _ => "nan"

end Binary64
end Number
end Snippets
