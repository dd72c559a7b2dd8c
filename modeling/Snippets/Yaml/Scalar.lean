import Snippets.Datum
import Snippets.Text.Lowercase
import Snippets.Yaml.Schema
import Snippets.Yaml.Token

/-!
# The values of scalars

The value that the text of a scalar has under its tag.  Bytes are written in base 64: in
groups of three, each as four characters of an alphabet of sixty-four.  Other characters are
passed over, and padding ends the text where a group is short.
-/

namespace Snippets
namespace Yaml
namespace Base64

/-- The number of six bits that a character of the alphabet stands for. -/
def sextet? (character : Char) : Option Nat :=
  let code := character.toNat
  if 65 ≤ code ∧ code ≤ 90 then some (code - 65)
  else if 97 ≤ code ∧ code ≤ 122 then some (code - 71)
  else if 48 ≤ code ∧ code ≤ 57 then some (code + 4)
  else if character = '+' then some 62
  else if character = '/' then some 63
  else none

/-- Decodes characters.  The bytes found are in reverse; `count` characters of the group
at hand have been read, of which the bits of `bits` are left, and `padding` counts the
equals signs since the last of them. -/
def decodeFrom (found : List UInt8) (count bits padding : Nat) :
    List Char → Option (List UInt8)
  | [] => if count = 0 then some found.reverse else none
  | character :: rest =>
      if character = '=' then
        if 2 ≤ count then
          if 4 ≤ count + padding + 1 then some found.reverse
          else decodeFrom found count bits (padding + 1) rest
        else decodeFrom found count bits padding rest
      else
        match sextet? character with
        | none => decodeFrom found count bits padding rest
        | some value =>
            match count with
            | 0 => decodeFrom found 1 value 0 rest
            | 1 => decodeFrom ((bits * 4 + value / 16).toUInt8 :: found) 2 (value % 16) 0 rest
            | 2 => decodeFrom ((bits * 16 + value / 4).toUInt8 :: found) 3 (value % 4) 0 rest
            | _ => decodeFrom ((bits * 64 + value).toUInt8 :: found) 0 0 0 rest

/-- The bytes that a text encodes, if no group of it is cut short. -/
def decode (text : List Char) : Option (List UInt8) :=
  decodeFrom [] 0 0 0 text

end Base64

namespace Scalar

/-- The truth values of words in lower case. -/
def boolOfWord : List (String × Bool) :=
  [("yes", true), ("no", false), ("true", true), ("false", false), ("on", true), ("off", false)]

/-- The truth value of a text. -/
def bool (text : String) : Except Failure Datum :=
  match boolOfWord.lookup (Text.lowercase text) with
  | some value => .ok (.bool value)
  | none => .error .unknownWord

/-- A number without separators of digits. -/
def dropUnderscores (characters : List Char) : List Char :=
  characters.filter (· != '_')

/-- The parts of a text between its colons, after those already found and the part at
hand, both in reverse. -/
def colonParts (part : List Char) (found : List (List Char)) : List Char → List (List Char)
  | [] => (part.reverse :: found).reverse
  | ':' :: rest => colonParts [] (part.reverse :: found) rest
  | character :: rest => colonParts (character :: part) found rest

/-- The whole number of a text in a base. -/
def intInBase (base : Nat) (characters : List Char) : Except Failure Int :=
  match Number.intOfText? base characters with
  | some value => .ok value
  | none => .error .outOfRange

/-- The whole number of a text without a sign: binary, hexadecimal, octal, in parts of
sixty, or decimal. -/
def magnitude (characters : List Char) : Except Failure Int :=
  match characters with
  | [] => .error .noDigits
  | ['0'] => .ok 0
  | '0' :: 'b' :: digits => intInBase 2 digits
  | '0' :: 'x' :: digits => intInBase 16 digits
  | '0' :: _ => intInBase 8 characters
  | _ =>
      if characters.contains ':' then do
        let parts ← (colonParts [] [] characters).mapM (intInBase 10)
        return parts.foldl (fun value part => value * 60 + part) 0
      else intInBase 10 characters

/-- The whole number of a text. -/
def int (text : String) : Except Failure Datum :=
  match dropUnderscores text.toList with
  | [] => .error .noDigits
  | '-' :: rest => (magnitude rest).map fun value => .int (-value)
  | '+' :: rest => (magnitude rest).map .int
  | characters => (magnitude characters).map .int

/-- The floating-point number of a text without words. -/
def floatPart (characters : List Char) : Except Failure Number.Binary64 :=
  match Number.floatOfText? characters with
  | some value => .ok value
  | none => .error .outOfRange

/-- The sum of numbers, of which each counts sixty times as much as the one after it,
from the last one on. -/
def sexagesimalSum (sum : Number.Binary64) (factor : Nat) :
    List Number.Binary64 → Except Failure Number.Binary64
  | [] => .ok sum
  | part :: rest =>
      match Number.Binary64.ofInt factor with
      | .infinite _ => .error .tooManyParts
      | weight => sexagesimalSum (sum.add (part.mul weight)) (factor * 60) rest

/-- The number that a text is not, where the place of the text tells it from others. -/
def withOrigin (place : Nat) : Number.Binary64 → Number.Binary64
  | .nan _ => .nan (place + 1)
  | value => value

/-- The floating-point number of a text without a sign.  A result that is no number is the
same one wherever it has its own word. -/
def floatMagnitude (place : Nat) (characters : List Char) : Except Failure Number.Binary64 :=
  if characters = ".inf".toList then .ok (.infinite false)
  else if characters = ".nan".toList then .ok (.nan 0)
  else if characters.contains ':' then do
    let parts ← (colonParts [] [] characters).mapM floatPart
    let sum ← sexagesimalSum (.finite false 0) 1 parts.reverse
    return withOrigin place sum
  else (floatPart characters).map (withOrigin place)

/-- The floating-point number of a text at a place. -/
def float (place : Nat) (text : String) : Except Failure Datum :=
  match (dropUnderscores text.toList).map Char.toLower with
  | [] => .error .noDigits
  | '-' :: rest => (floatMagnitude place rest).map fun value => .float value.neg
  | '+' :: rest => (floatMagnitude place rest).map .float
  | characters => (floatMagnitude place characters).map .float

/-- The bytes of a text. -/
def binary (text : String) : Except Failure Datum :=
  let characters := text.toList
  if characters.any fun character => 0x80 ≤ character.toNat then .error .malformed
  else
    match Base64.decode characters with
    | some bytes => .ok (.bytes bytes)
    | none => .error .malformed

/-- The millionths that the digits of a fraction spell, cut off after six. -/
def microseconds (digits : List Char) : Nat :=
  let kept := digits.take 6
  Number.ofDigits 10 kept * Nat.pow 10 (6 - kept.length)

/-- The minutes between a clock and universal time. -/
def offsetMinutes (offset : Bool × List Char × List Char) : Int :=
  let minutes : Int :=
    (Number.ofDigits 10 offset.2.1 * 60 + Number.ofDigits 10 offset.2.2 : Nat)
  if offset.1 then -minutes else minutes

/-- The date or the moment of its written parts. -/
def momentOfParts (parts : Plain.MomentText) : Except Failure Datum :=
  let date : Calendar.Date :=
    ⟨Number.ofDigits 10 parts.year, Number.ofDigits 10 parts.month,
     Number.ofDigits 10 parts.day⟩
  match parts.time with
  | none => if date.IsValid then .ok (.date date) else .error .outOfRange
  | some (hour, minute, second, fraction) =>
      let moment : Calendar.Moment :=
        ⟨date, Number.ofDigits 10 hour, Number.ofDigits 10 minute,
         Number.ofDigits 10 second, microseconds fraction, parts.offset.map offsetMinutes⟩
      if moment.IsValid then .ok (.moment moment) else .error .outOfRange

/-- The date or the moment of a text. -/
def timestamp (text : String) : Except Failure Datum :=
  match Plain.moment? (Plain.dropFinalBreak text.toList) with
  | some parts => momentOfParts parts
  | none => .error .notMoment

/-- The text of a scalar as a value. -/
def text : ScalarText → Datum
  | .whole text => .text text
  | .broken codes => .brokenText codes

/-- The value of a text under a tag for scalars, at a place that is that of no other
scalar. -/
def value (place : Nat) (tag : NodeTag) (content : ScalarText) : Except Failure Datum :=
  match tag with
  | .null => .ok .null
  | .bool => bool content.repaired
  | .int => int content.repaired
  | .float => float place content.repaired
  | .binary => binary content.repaired
  | .timestamp => timestamp content.repaired
  | .text => .ok (text content)
  | _ => .error .malformed

/-- Whether a tag is one for scalars. -/
def isScalarTag : NodeTag → Bool
  | .null | .bool | .int | .float | .binary | .timestamp | .text => true
  | _ => false

end Scalar

end Yaml
end Snippets
