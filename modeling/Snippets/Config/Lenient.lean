import Snippets.Issue
import Snippets.Number.Reading
import Snippets.Text.Utf8

/-!
# Lenient reading of scalars

A truth value may be given as a number or as one of twelve words, and a whole number
as a truth value, as a number without a fraction, or as a text.
-/

namespace Snippets
namespace Lenient

/-- The words for truth, in lower case. -/
def trueWords : List String := ["1", "on", "t", "true", "y", "yes"]

/-- The words for falsehood, in lower case. -/
def falseWords : List String := ["0", "off", "f", "false", "n", "no"]

/-- The truth value of a word, with ASCII letters in any case. -/
def boolOfWord (word : List Char) : Checked Bool :=
  let lower := String.ofList (word.map Char.toLower)
  if falseWords.contains lower then .ok false
  else if trueWords.contains lower then .ok true
  else .fail .unreadableBool

/-- The truth value of a number. -/
def boolOfInt (value : Int) : Checked Bool :=
  if value = 0 then .ok false
  else if value = 1 then .ok true
  else .fail .unreadableBool

/-- Whether a whole number fits into 64 bits with a sign. -/
def fitsWord (value : Int) : Bool :=
  decide (-(Nat.pow 2 63 : Int) ≤ value ∧ value < (Nat.pow 2 63 : Int))

/-- Takes a floating-point number as a whole number. -/
def intOfFloat : Number.Binary64 → Checked Int
  | .finite negative units =>
      match Number.Binary64.toInt? (.finite negative units) with
      | none => .fail .fractional
      | some value => if value.natAbs < Nat.pow 2 63 then .ok value else .fail .oversizedInt
  | _ => .fail .notFinite

/-- Takes a value as a truth value. -/
def checkBool : Datum → Checked Bool
  | .bool value => .ok value
  | .text word => boolOfWord word.toList
  | .brokenText _ => .fail .notUnicode
  | .bytes value =>
      match Text.decodeUtf8 value with
      | some word => boolOfWord word
      | none => .fail .unreadableBool
  | .int value => if fitsWord value then boolOfInt value else .fail .notBool
  | .float value =>
      match intOfFloat value with
      | .ok whole => boolOfInt whole
      | .error _ => .fail .notBool
  | _ => .fail .notBool

/-- Whether a character may stand around a number in a text. -/
def isPadding (character : Char) : Bool :=
  let code := character.toNat
  (9 ≤ code && code ≤ 13) || code = 32 || code = 0x85 || code = 0xA0 || code = 0x1680 ||
    (0x2000 ≤ code && code ≤ 0x200A) || code = 0x2028 || code = 0x2029 || code = 0x202F ||
    code = 0x205F || code = 0x3000

/-- A text without padding at either end. -/
def unpad (characters : List Char) : List Char :=
  ((characters.dropWhile isPadding).reverse.dropWhile isPadding).reverse

/-- What follows zeros and separators at the start of a number, given the last of
them.  A zero stays before a point and at the end, and a minus sign may follow. -/
def dropZeros (last : Char) : List Char → Option (List Char)
  | [] => some [last]
  | character :: rest =>
      if character = '0' ∨ character = '_' then dropZeros character rest
      else if ('1' ≤ character ∧ character ≤ '9') ∨ character = '-' then some (character :: rest)
      else if character = '.' then some (last :: character :: rest)
      else none

/-- A number without zeros at its start.  It has to start with a digit or a minus
sign, after which zeros stay. -/
def dropLeadingZeros : List Char → Option (List Char)
  | [] => none
  | character :: rest =>
      if character = '0' then dropZeros character rest
      else if ('1' ≤ character ∧ character ≤ '9') ∨ character = '-' then
        some (character :: rest)
      else none

/-- A number without a point that zeros follow, of which there is at least one. -/
def dropFraction (characters : List Char) : List Char :=
  let whole := characters.takeWhile (· != '.')
  let fraction := characters.drop (whole.length + 1)
  if fraction ≠ [] ∧ fraction.all (· == '0') then whole else characters

/-- A number without a plus sign. -/
def dropPlus : List Char → Option (List Char)
  | '+' :: '-' :: _ => none
  | '+' :: rest => some rest
  | characters => some characters

/-- Whether a number is negative, and its digits: without padding, signs, zeros at the
start, a fraction of zeros, and single separators between digits. -/
def normalize (characters : List Char) : Option (Bool × List Char) := do
  let unsigned ← dropPlus (unpad characters)
  let significant ← dropLeadingZeros unsigned
  match dropFraction significant with
  | '-' :: digits => return (true, (← Number.dropSeparators digits))
  | digits => return (false, (← Number.dropSeparators digits))

/-- Reads a whole number from a text. -/
def intOfText (characters : List Char) : Checked Int :=
  match normalize characters with
  | none => .fail .unreadableInt
  | some (negative, digits) =>
      if digits = [] ∨ !digits.all Char.isDigit then .fail .unreadableInt
      else
        let significant := digits.dropWhile (· = '0')
        if Number.mostDigits < significant.length then .fail .oversizedInt
        else
          let value : Int := Number.ofDigits 10 significant
          .ok (if negative then -value else value)

/-- Takes a value as a whole number. -/
def checkInt : Datum → Checked Int
  | .bool value => .ok (if value then 1 else 0)
  | .int value => .ok value
  | .float value => intOfFloat value
  | .text value => intOfText value.toList
  | .brokenText _ => .fail .notUnicode
  | .bytes value =>
      match Text.decodeUtf8 value with
      | some characters => intOfText characters
      | none => .fail .unreadableInt
  | _ => .fail .notInt

end Lenient
end Snippets
