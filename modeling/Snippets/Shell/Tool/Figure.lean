import Snippets.Number.Binary64
import Snippets.Shell.Tool.Basic
import Snippets.Shell.Words

/-!
# Numbers with a point

A number is a quotient, or lies beyond all of them.  It is read from digits, rounded to the
bits that a machine keeps, and written with a point, with an exponent, or with the shorter
one of the two.
-/

namespace Snippets
namespace Shell

/-- The flags, the width and the precision of a field. -/
structure Field where
  /-- Signs before the width. -/
  flags : List Char
  /-- The least width. -/
  width : Nat
  /-- The precision, if one is given. -/
  precision : Option Nat

/-- A number as a field shows it: a sign or the mark of a base, and digits. -/
def Field.number (field : Field) (sign digits : List Char) (mayFill : Bool) : List Char :=
  if field.flags.contains '-' then padRight field.width (sign ++ digits)
  else if field.flags.contains '0' ∧ mayFill then
    sign ++ padLeft (field.width - sign.length) '0' digits
  else padLeft field.width ' ' (sign ++ digits)

/-- A text as a field shows it. -/
def Field.text (field : Field) (text : List Char) : List Char :=
  let text := match field.precision with
    | some count => text.take count
    | none => text
  if field.flags.contains '-' then padRight field.width text
  else padLeft field.width ' ' text

/-- The sign of a number. -/
def Field.sign (field : Field) (isNegative : Bool) : List Char :=
  if isNegative then ['-']
  else if field.flags.contains '+' then ['+']
  else if field.flags.contains ' ' then [' ']
  else []

/-- A number with a point. -/
inductive Figure where
  /-- A quotient. -/
  | quotient (isNegative : Bool) (numerator denominator : Nat)
  /-- A number beyond all others. -/
  | infinite (isNegative : Bool)
  /-- No number. -/
  | undefined (isNegative : Bool)
  deriving DecidableEq, Repr

namespace Figure

/-- The number zero. -/
def zero : Figure := .quotient false 0 1

/-- A whole number. -/
def ofInt (value : Int) : Figure :=
  .quotient (value < 0) value.natAbs 1

/-- The value of digits in a base. -/
def valueOf (base : Nat) (digits : List Char) : Nat :=
  digits.foldl (fun value digit => value * base + Words.digitValue digit) 0

/-- An exponent after a letter, and what follows it. -/
def exponent (letter : Char) (text : List Char) : Int × List Char :=
  match text with
  | first :: rest =>
      if first.toLower = letter then
        let sign := rest.take 1
        let digits := if sign = ['-'] ∨ sign = ['+'] then rest.drop 1 else rest
        let kept := digits.takeWhile Char.isDigit
        match toNat? kept with
        | some value =>
            (if sign = ['-'] then -(value : Int) else value, digits.drop kept.length)
        | none => (0, text)
      else (0, text)
  | [] => (0, [])

/-- The greatest exponent of ten that matters. -/
def greatestExponent : Nat := 5000

/-- A whole number times a power of a base. -/
def scaled (isNegative : Bool) (base digits : Nat) (power : Int) : Figure :=
  if digits = 0 then .quotient isNegative 0 1
  else if (greatestExponent : Int) * 4 < power then .infinite isNegative
  else if power < -(greatestExponent : Int) * 8 then .quotient isNegative 0 1
  else if 0 ≤ power then .quotient isNegative (digits * Nat.pow base power.toNat) 1
  else .quotient isNegative digits (Nat.pow base (-power).toNat)

/-- The number at the start of a text and what follows it, if there is one. -/
def ofText? (text : List Char) : Option (Figure × List Char) :=
  let text := text.dropWhile fun octet => " \t\n\r\x0b\x0c".toList.contains octet
  let isNegative := text.head? = some '-'
  let rest := if isNegative ∨ text.head? = some '+' then text.drop 1 else text
  let lower := (rest.take 8).map Char.toLower
  let isHex := fun octet : Char => Words.digitValue octet < 16
  if "infinity".toList.isPrefixOf lower then some (.infinite isNegative, rest.drop 8)
  else if "inf".toList.isPrefixOf lower then some (.infinite isNegative, rest.drop 3)
  else if "nan".toList.isPrefixOf lower then some (.undefined isNegative, rest.drop 3)
  else
    let hex := rest.drop 2
    let isHexadecimal := "0x".toList.isPrefixOf lower &&
      (hex.head?.any isHex || (hex.head? = some '.' && (hex.drop 1).head?.any isHex))
    let (base, test, rest) : Nat × (Char → Bool) × List Char :=
      if isHexadecimal then (16, isHex, hex) else (10, Char.isDigit, rest)
    let whole := rest.takeWhile test
    let after := rest.drop whole.length
    let places := if after.head? = some '.' then (after.drop 1).takeWhile test else []
    if whole.isEmpty ∧ places.isEmpty then none
    else
      let after := if after.head? = some '.' then (after.drop 1).drop places.length else after
      let digits := valueOf base (whole ++ places)
      if isHexadecimal then
        let (power, after) := exponent 'p' after
        some (scaled isNegative 2 digits (power - 4 * (places.length : Int)), after)
      else
        let (power, after) := exponent 'e' after
        some (scaled isNegative 10 digits (power - (places.length : Int)), after)

/-- The whole number with a given count of bits, and the power of two it is multiplied with,
that are nearest to a quotient. -/
def nearest (bits numerator denominator : Nat) : Nat × Int :=
  if numerator = 0 then (0, 0)
  else
    let guess : Int := (numerator.log2 : Int) - (denominator.log2 : Int) - (bits : Int) + 1
    let divide := fun power : Int =>
      if 0 ≤ power then (numerator, denominator * Nat.pow 2 power.toNat)
      else (numerator * Nat.pow 2 (-power).toNat, denominator)
    -- The guess is right or one too great.
    let (top, bottom) := divide guess
    let power := if top / bottom < Nat.pow 2 (bits - 1) then guess - 1 else guess
    let (top, bottom) := divide power
    (Number.roundHalfEven top bottom, power)

/-- A number rounded to a count of bits. -/
def round (bits : Nat) : Figure → Figure
  | .quotient isNegative numerator denominator =>
      let (mantissa, power) := nearest bits numerator denominator
      if 0 ≤ power then .quotient isNegative (mantissa * Nat.pow 2 power.toNat) 1
      else .quotient isNegative mantissa (Nat.pow 2 (-power).toNat)
  | other => other

/-- The digits of a number with a count of places after the point. -/
def fixedDigits (places numerator denominator : Nat) : List Char :=
  let units := Number.roundHalfEven (numerator * Nat.pow 10 places) denominator
  let text := padLeft (places + 1) '0' (ofNat units)
  let whole := text.take (text.length - places)
  whole ++ if places = 0 then [] else '.' :: text.drop (text.length - places)

/-- The first digits of a number, one more than the given count, and the exponent of ten of the
first one. -/
def leading (count numerator denominator : Nat) : Nat × Int :=
  if numerator = 0 then (0, 0)
  else
    let guess : Int := ((ofNat numerator).length : Int) - ((ofNat denominator).length : Int)
    let divide := fun power : Int =>
      if 0 ≤ power then (numerator, denominator * Nat.pow 10 power.toNat)
      else (numerator * Nat.pow 10 (-power).toNat, denominator)
    let (top, bottom) := divide guess
    let first := if top < bottom then guess - 1 else guess
    let (top, bottom) := divide (first - (count : Int))
    let digits := Number.roundHalfEven top bottom
    if digits = Nat.pow 10 (count + 1) then (digits / 10, first + 1) else (digits, first)

/-- An exponent with its sign, of at least two digits. -/
def exponentText (power : Int) : List Char :=
  (if power < 0 then '-' else '+') :: padLeft 2 '0' (ofNat power.natAbs)

/-- The digits of a number with one digit before the point, and an exponent. -/
def scientificDigits (alternate : Bool) (places numerator denominator : Nat) : List Char :=
  let (digits, power) := leading places numerator denominator
  let text := padLeft (places + 1) '0' (ofNat digits)
  text.take 1 ++ (if places = 0 ∧ ¬alternate then [] else '.' :: text.drop 1) ++
    'e' :: exponentText power

/-- Digits without zeros, and without a point, at the end of the part before the exponent. -/
def trimmed (text : List Char) : List Char :=
  let body := text.takeWhile (· != 'e')
  let rest := text.drop body.length
  if body.contains '.' then
    let kept := (body.reverse.dropWhile (· = '0')).reverse
    (if kept.getLast? = some '.' then kept.dropLast else kept) ++ rest
  else text

/-- The digits of a number in the shorter one of two forms. -/
def generalDigits (alternate : Bool) (precision numerator denominator : Nat) : List Char :=
  let precision := max 1 precision
  let (_, power) := leading (precision - 1) numerator denominator
  let text :=
    if -4 ≤ power ∧ power < precision then
      let places := (precision : Int) - 1 - power
      let text := fixedDigits places.toNat numerator denominator
      if alternate ∧ places = 0 then text ++ ['.'] else text
    else scientificDigits alternate (precision - 1) numerator denominator
  if alternate then text else trimmed text

/-- The digits of a number in base sixteen, with an exponent of two, for a count of bits. -/
def hexadecimalDigits (bits : Nat) (precision : Option Nat) (alternate : Bool)
    (numerator denominator : Nat) : List Char :=
  let (mantissa, power) := nearest bits numerator denominator
  -- The first digit stands for the bits that are left when the others are taken by fours.
  let first := if bits % 4 = 0 then 4 else bits % 4
  let count := (bits - first) / 4
  let power := if mantissa = 0 then 0 else power + 4 * (count : Int)
  let (mantissa, count) := match precision with
    | some places =>
        if places < count then
          (Number.roundHalfEven mantissa (Nat.pow 16 (count - places)), places)
        else (mantissa * Nat.pow 16 (places - count), places)
    | none => (mantissa, count)
  let places := padLeft count '0' (Nat.toDigits 16 (mantissa % Nat.pow 16 count))
  let places := if count = 0 then []
    else if precision.isSome then places
    else (places.reverse.dropWhile (· = '0')).reverse
  Nat.toDigits 16 (mantissa / Nat.pow 16 count) ++
    (if places.isEmpty ∧ ¬alternate then [] else '.' :: places) ++
    'p' :: (if power < 0 then '-' else '+') :: ofNat power.natAbs

/-- A number as a field of a kind shows it, on a machine that keeps a count of bits. -/
def inField (bits : Nat) (kind : Char) (field : Field) (figure : Figure) : List Char :=
  let change := fun text : List Char =>
    if kind.isUpper then text.map Char.toUpper else text
  match figure with
  | .infinite isNegative => field.number (field.sign isNegative) (change "inf".toList) false
  | .undefined isNegative => field.number (field.sign isNegative) (change "nan".toList) false
  | .quotient isNegative numerator denominator =>
      let alternate := field.flags.contains '#'
      let precision := field.precision.getD 6
      let sign := field.sign isNegative
      let (sign, digits) := match kind.toLower with
        | 'f' =>
            let digits := fixedDigits precision numerator denominator
            (sign, if precision = 0 ∧ alternate then digits ++ ['.'] else digits)
        | 'e' => (sign, scientificDigits alternate precision numerator denominator)
        | 'g' => (sign, generalDigits alternate precision numerator denominator)
        | _ => (sign ++ ['0', 'x'],
            hexadecimalDigits bits field.precision alternate numerator denominator)
      field.number (change sign) (change digits) true

end Figure
end Shell
end Snippets
