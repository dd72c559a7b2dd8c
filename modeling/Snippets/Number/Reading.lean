import Snippets.Number.Binary64
import Snippets.Text.Blank

/-!
# Reading numbers

The digits of a whole number, read in a base of at most 36, and the numbers that texts
spell: with blank characters around them, a sign, single underscores between digits, and
digits of any script.
-/

namespace Snippets

namespace Text

/-- The code points of the zeros of all scripts, each of which the other nine digits follow. -/
def zeros : List Nat :=
  [0x30, 0x660, 0x6F0, 0x7C0, 0x966, 0x9E6, 0xA66, 0xAE6, 0xB66, 0xBE6, 0xC66, 0xCE6, 0xD66,
   0xDE6, 0xE50, 0xED0, 0xF20, 0x1040, 0x1090, 0x17E0, 0x1810, 0x1946, 0x19D0, 0x1A80, 0x1A90,
   0x1B50, 0x1BB0, 0x1C40, 0x1C50, 0xA620, 0xA8D0, 0xA900, 0xA9D0, 0xA9F0, 0xAA50, 0xABF0,
   0xFF10, 0x104A0, 0x10D30, 0x11066, 0x110F0, 0x11136, 0x111D0, 0x112F0, 0x11450, 0x114D0,
   0x11650, 0x116C0, 0x11730, 0x118E0, 0x11950, 0x11C50, 0x11D50, 0x11DA0, 0x16A60, 0x16AC0,
   0x16B50, 0x1D7CE, 0x1D7D8, 0x1D7E2, 0x1D7EC, 0x1D7F6, 0x1E140, 0x1E2F0, 0x1E950, 0x1FBF0]

/-- The value of a decimal digit of any script. -/
def digit? (character : Char) : Option Nat :=
  let code := character.toNat
  (zeros.find? fun first => first ≤ code && code < first + 10).map (code - ·)

end Text

namespace Number

/-- The value of a digit, letters counting on from ten. -/
def digitValue (character : Char) : Nat :=
  let code := character.toNat
  if 48 ≤ code ∧ code ≤ 57 then code - 48
  else if 97 ≤ code ∧ code ≤ 122 then code - 87
  else if 65 ≤ code ∧ code ≤ 90 then code - 55
  else 36

/-- The number that digits spell in a base. -/
def ofDigits (base : Nat) (digits : List Char) : Nat :=
  digits.foldl (fun value digit => value * base + digitValue digit) 0

/-- The number that some digits spell, if all of them are digits of the base and
there is at least one. -/
def ofDigits? (base : Nat) (digits : List Char) : Option Nat :=
  if digits ≠ [] ∧ digits.all (fun digit => digitValue digit < base) then
    some (ofDigits base digits)
  else none

/-- Digits without single underscores between two of them. -/
def dropSeparators : List Char → Option (List Char)
  | [] => some []
  | '_' :: _ => none
  | [digit] => some [digit]
  | digit :: '_' :: next :: rest =>
      if next = '_' then none else (dropSeparators (next :: rest)).map (digit :: ·)
  | digit :: next :: rest => (dropSeparators (next :: rest)).map (digit :: ·)

/-- A character with the ASCII digit in place of a digit of another script. -/
def plainDigit (character : Char) : Char :=
  match Text.digit? character with
  | some value => Char.ofNat (48 + value)
  | none => character

/-- Whether a number is negative, and what follows its sign. -/
def splitSign : List Char → Bool × List Char
  | '-' :: rest => (true, rest)
  | '+' :: rest => (false, rest)
  | characters => (false, characters)

/-- The letter that may follow a zero to announce a base. -/
def baseLetter? (base : Nat) : Option Char :=
  [(2, 'b'), (8, 'o'), (16, 'x')].lookup base

/-- The digits of a number without the announcement of their base. -/
def dropBase (base : Nat) : List Char → List Char
  | '0' :: letter :: rest =>
      if baseLetter? base = some letter.toLower then
        (if rest.head? = some '_' then rest.drop 1 else rest)
      else '0' :: letter :: rest
  | characters => characters

/-- The greatest number of decimal digits that a text may have. -/
def mostDigits : Nat := 4300

/-- The whole number that a text spells in a base. -/
def intOfText? (base : Nat) (text : List Char) : Option Int := do
  let (negative, body) := splitSign ((Text.stripList text).map plainDigit)
  let digits ← dropSeparators (dropBase base body)
  if base = 10 ∧ mostDigits < digits.length then failure
  let magnitude ← ofDigits? base digits
  return if negative then -(magnitude : Int) else magnitude

/-- The exponent at the end of a number, zero if there is none. -/
def exponent? : List Char → Option Int
  | [] => some 0
  | letter :: rest =>
      if letter = 'e' ∨ letter = 'E' then
        let (negative, digits) := splitSign rest
        if digits ≠ [] ∧ digits.all Char.isDigit then
          let magnitude : Int := ofDigits 10 digits
          some (if negative then -magnitude else magnitude)
        else none
      else none

/-- The floating-point number that a text spells. -/
def floatOfText? (text : List Char) : Option Binary64 := do
  let (negative, body) := splitSign ((Text.stripList text).map plainDigit)
  let word := String.ofList (body.map Char.toLower)
  if word = "inf" ∨ word = "infinity" then return .infinite negative
  if word = "nan" then return .nan 0
  let whole := body.takeWhile Char.isDigit
  let rest := body.drop whole.length
  let fraction := if rest.head? = some '.' then (rest.drop 1).takeWhile Char.isDigit else []
  let rest := if rest.head? = some '.' then rest.drop (fraction.length + 1) else rest
  if whole ++ fraction = [] then failure
  let exponent ← exponent? rest
  return .ofDecimal negative (ofDigits 10 (whole ++ fraction)) (exponent - fraction.length)

end Number
end Snippets
