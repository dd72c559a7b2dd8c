/-!
# Binary floating-point numbers

A number of the binary format with 53 significant bits.  Every finite number is a
sign and a multiple of `2 ^ -1074`, the smallest positive one, so that sums,
products and comparisons can be carried out on natural numbers and rounded once.
-/

namespace Snippets
namespace Number

/-- The whole number nearest to a quotient, the even one of two. -/
def roundHalfEven (numerator denominator : Nat) : Nat :=
  let quotient := numerator / denominator
  let remainder := numerator % denominator
  if 2 * remainder < denominator then quotient
  else if denominator < 2 * remainder then quotient + 1
  else if quotient % 2 = 0 then quotient
  else quotient + 1

/-- A floating-point number. -/
inductive Binary64 where
  /-- A signed multiple of `2 ^ -1074`. -/
  | finite (negative : Bool) (units : Nat)
  /-- A number beyond the largest finite one. -/
  | infinite (negative : Bool)
  /-- The result of an operation without a value.  Results of different origin are told
  apart by a number. -/
  | nan (origin : Nat)
  deriving DecidableEq, Repr

namespace Binary64

/-- The number of units in one. -/
def one : Nat := Nat.pow 2 1074

/-- The number of significant bits. -/
def precision : Nat := 53

/-- The least number of units that is too large for a finite number. -/
def bound : Nat := Nat.pow 2 2098

/-- The number nearest to a signed quotient. -/
def ofRatio (negative : Bool) (numerator denominator : Nat) : Binary64 :=
  let scaled := numerator * one
  let size := Nat.log2 (scaled / denominator) + 1
  let step := Nat.pow 2 (size - precision)
  let units := roundHalfEven scaled (denominator * step) * step
  if units < bound then finite negative units else infinite negative

/-- The number nearest to `digits * 10 ^ exponent` with the given sign. -/
def ofDecimal (negative : Bool) (digits : Nat) (exponent : Int) : Binary64 :=
  if digits = 0 then finite negative 0
  else if 400 < exponent then infinite negative
  else if exponent + (Nat.log2 digits : Int) < -1500 then finite negative 0
  else if 0 ≤ exponent then ofRatio negative (digits * Nat.pow 10 exponent.toNat) 1
  else ofRatio negative digits (Nat.pow 10 (-exponent).toNat)

/-- The number nearest to a whole number. -/
def ofInt (value : Int) : Binary64 :=
  ofRatio (value < 0) value.natAbs 1

/-- The whole number that a finite number without a fraction is equal to. -/
def toInt? : Binary64 → Option Int
  | finite negative units =>
      if units % one = 0 then
        some (if negative then -((units / one : Nat) : Int) else ((units / one : Nat) : Int))
      else none
  | _ => none

/-- The size of a finite number without its fraction. -/
def wholePart : Binary64 → Nat
  | finite _ units => units / one
  | _ => 0

/-- A number with the opposite sign. -/
def neg : Binary64 → Binary64
  | finite negative units => finite (!negative) units
  | infinite negative => infinite (!negative)
  | nan origin => nan origin

/-- A finite number as a multiple of the unit. -/
def signedUnits (negative : Bool) (units : Nat) : Int :=
  if negative then -(units : Int) else units

/-- The sum of two numbers, rounded. -/
def add (left right : Binary64) : Binary64 :=
  match left, right with
  | nan origin, _ => nan origin
  | _, nan origin => nan origin
  | finite negative 0, finite other 0 => finite (negative && other) 0
  | finite negative first, finite other second =>
      let sum := signedUnits negative first + signedUnits other second
      ofRatio (sum < 0) sum.natAbs one
  | infinite negative, infinite other => if negative = other then infinite negative else nan 0
  | infinite negative, finite _ _ => infinite negative
  | finite _ _, infinite negative => infinite negative

/-- The product of two numbers, rounded. -/
def mul (left right : Binary64) : Binary64 :=
  match left, right with
  | nan origin, _ => nan origin
  | _, nan origin => nan origin
  | finite negative first, finite other second =>
      ofRatio (negative != other) (first * second) (one * one)
  | infinite negative, infinite other => infinite (negative != other)
  | infinite negative, finite other units =>
      if units = 0 then nan 0 else infinite (negative != other)
  | finite negative units, infinite other =>
      if units = 0 then nan 0 else infinite (negative != other)

end Binary64
end Number
end Snippets
