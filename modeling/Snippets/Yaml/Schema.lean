import Snippets.Calendar
import Snippets.Number.Reading

/-!
# The tags of YAML

A tag says what kind of value a node has.  A plain scalar without a tag gets one from
its text: words for nothing and for truth values, numbers in several notations, dates
and moments are told from other texts.
-/

namespace Snippets
namespace Yaml

/-- What kind of value a node has. -/
inductive NodeTag where
  /-- Nothing. -/
  | null
  /-- A truth value. -/
  | bool
  /-- A whole number. -/
  | int
  /-- A floating-point number. -/
  | float
  /-- Bytes. -/
  | binary
  /-- A date or a moment. -/
  | timestamp
  /-- A text. -/
  | text
  /-- A sequence. -/
  | sequence
  /-- A sequence of single entries under distinct keys. -/
  | orderedMapping
  /-- A sequence of single entries. -/
  | pairs
  /-- A set. -/
  | set
  /-- A mapping. -/
  | mapping
  /-- The key under which other mappings are merged into one. -/
  | merge
  /-- The key for the value of a mapping as a whole. -/
  | whole
  /-- Any other tag. -/
  | unknown
  deriving DecidableEq, Repr

namespace NodeTag

/-- The start of the tags that are part of the language. -/
def namespaceText : String := "tag:yaml.org,2002:"

/-- The names of tags. -/
def names : List (String × NodeTag) :=
  [("null", null), ("bool", bool), ("int", int), ("float", float), ("binary", binary),
   ("timestamp", timestamp), ("str", text), ("seq", sequence), ("omap", orderedMapping),
   ("pairs", pairs), ("set", set), ("map", mapping), ("merge", merge), ("value", whole)]

/-- The tag with the given text. -/
def ofText (text : String) : NodeTag :=
  let start := namespaceText.toList
  let characters := text.toList
  if start.isPrefixOf characters then
    (names.lookup (String.ofList (characters.drop start.length))).getD unknown
  else unknown

end NodeTag

namespace Plain

/-- The words for truth. -/
def trueWords : List String :=
  ["yes", "Yes", "YES", "true", "True", "TRUE", "on", "On", "ON"]

/-- The words for falsehood. -/
def falseWords : List String :=
  ["no", "No", "NO", "false", "False", "FALSE", "off", "Off", "OFF"]

/-- The words for nothing. -/
def nullWords : List String := ["", "~", "null", "Null", "NULL"]

/-- A number without its sign. -/
def unsigned : List Char → List Char
  | '+' :: rest => rest
  | '-' :: rest => rest
  | characters => characters

/-- Whether a character is a digit or a separator of digits. -/
def isDigitPart (character : Char) : Bool :=
  character.isDigit || character = '_'

/-- Whether a character is an octal digit or a separator of digits. -/
def isOctalPart (character : Char) : Bool :=
  ('0' ≤ character && character ≤ '7') || character = '_'

/-- Whether a character is a binary digit or a separator of digits. -/
def isBinaryPart (character : Char) : Bool :=
  character = '0' || character = '1' || character = '_'

/-- Whether a character is a hexadecimal digit or a separator of digits. -/
def isHexPart (character : Char) : Bool :=
  isDigitPart character || ('a' ≤ character && character ≤ 'f') ||
    ('A' ≤ character && character ≤ 'F')

/-- What follows groups of a colon and a number below sixty, of which there is at least
one. -/
def sexagesimalTail? : List Char → Option (List Char)
  | ':' :: first :: second :: rest =>
      if '0' ≤ first ∧ first ≤ '5' ∧ second.isDigit then
        match sexagesimalTail? rest with
        | some tail => some tail
        | none => some rest
      else if first.isDigit then
        match sexagesimalTail? (second :: rest) with
        | some tail => some tail
        | none => some (second :: rest)
      else none
  | [':', digit] => if digit.isDigit then some [] else none
  | _ => none

/-- Whether digits, of which there is at least one, and their separators are all there
is. -/
def isInt (characters : List Char) : Bool :=
  match unsigned characters with
  | ['0'] => true
  | '0' :: 'b' :: digits => digits ≠ [] && digits.all isBinaryPart
  | '0' :: 'x' :: digits => digits ≠ [] && digits.all isHexPart
  | '0' :: digits => digits.all isOctalPart
  | first :: rest =>
      first.isDigit &&
        (rest.all isDigitPart || sexagesimalTail? (rest.dropWhile isDigitPart) == some [])
  | [] => false

/-- Whether an exponent, or nothing, is all there is. -/
def isExponent : List Char → Bool
  | [] => true
  | letter :: sign :: digits =>
      (letter = 'e' || letter = 'E') && (sign = '+' || sign = '-') && digits ≠ [] &&
        digits.all Char.isDigit
  | _ => false

/-- Whether a number with a point, an infinite number or none is all there is. -/
def isFloat (characters : List Char) : Bool :=
  let body := unsigned characters
  if ["inf", "Inf", "INF"].any (fun word => body == '.' :: word.toList) then true
  else if ["nan", "NaN", "NAN"].any (fun word => characters == '.' :: word.toList) then true
  else
    match characters with
    | '.' :: first :: rest => first.isDigit && isExponent (rest.dropWhile isDigitPart)
    | _ =>
        body.head?.any Char.isDigit &&
          (let rest := body.dropWhile isDigitPart
           match rest with
           | '.' :: fraction => isExponent (fraction.dropWhile isDigitPart)
           | _ =>
               match sexagesimalTail? rest with
               | some ('.' :: fraction) => fraction.all isDigitPart
               | _ => false)

/-- The parts of a date or of a moment as they are written. -/
structure MomentText where
  /-- The digits of the year. -/
  year : List Char
  /-- The digits of the month. -/
  month : List Char
  /-- The digits of the day. -/
  day : List Char
  /-- The digits of the hour, the minute, the second and its fraction, if a time of day
  is given. -/
  time : Option (List Char × List Char × List Char × List Char)
  /-- Whether the clock is behind universal time, and the digits of the hours and minutes
  between the two, if they are given. -/
  offset : Option (Bool × List Char × List Char)

/-- At most two digits, of which at least one is there, and what follows them. -/
def shortNumber? : List Char → Option (List Char × List Char)
  | first :: second :: rest =>
      if first.isDigit then
        if second.isDigit then some ([first, second], rest) else some ([first], second :: rest)
      else none
  | [digit] => if digit.isDigit then some ([digit], []) else none
  | [] => none

/-- A colon and two digits, and what follows them. -/
def colonNumber? : List Char → Option (List Char × List Char)
  | ':' :: first :: second :: rest =>
      if first.isDigit ∧ second.isDigit then some ([first, second], rest) else none
  | _ => none

/-- A sign of a clock's distance from universal time, its digits, and nothing after
them. -/
def offset? (behind : Bool) (characters : List Char) : Option (Bool × List Char × List Char) :=
  match shortNumber? characters with
  | some (hours, []) => some (behind, hours, [])
  | some (hours, rest) =>
      match colonNumber? rest with
      | some (minutes, []) => some (behind, hours, minutes)
      | _ => none
  | none => none

/-- Whether a character is a space or a tab. -/
def isGap (character : Char) : Bool :=
  character = ' ' || character = '\t'

/-- A time of day and what follows its date. -/
def time? (date : MomentText) (characters : List Char) : Option MomentText := do
  let (hour, rest) ← shortNumber? characters
  let (minute, rest) ← colonNumber? rest
  let (second, rest) ← colonNumber? rest
  let fraction := if rest.head? = some '.' then (rest.drop 1).takeWhile Char.isDigit else []
  let rest := if rest.head? = some '.' then (rest.drop 1).dropWhile Char.isDigit else rest
  let date := { date with time := some (hour, minute, second, fraction) }
  if rest = [] then return date
  match rest.dropWhile isGap with
  | ['Z'] => return { date with offset := some (false, ['0'], []) }
  | '+' :: rest => return { date with offset := some (← offset? false rest) }
  | '-' :: rest => return { date with offset := some (← offset? true rest) }
  | _ => none

/-- The parts of a date or of a moment. -/
def moment? (characters : List Char) : Option MomentText := do
  let year := characters.take 4
  if year.length ≠ 4 ∨ !year.all Char.isDigit then failure
  let rest := characters.drop 4
  if rest.head? ≠ some '-' then failure
  let (month, rest) ← shortNumber? (rest.drop 1)
  if rest.head? ≠ some '-' then failure
  let (day, rest) ← shortNumber? (rest.drop 1)
  let date : MomentText := ⟨year, month, day, none, none⟩
  match rest with
  | [] => return date
  | next :: rest =>
      if next = 'T' ∨ next = 't' then time? date rest
      else if isGap next then time? date (rest.dropWhile isGap)
      else none

/-- Whether a date or a moment is all there is.  A date alone needs two digits for the
month and for the day. -/
def isMoment (characters : List Char) : Bool :=
  match moment? characters with
  | some parts => parts.time.isSome || (parts.month.length = 2 && parts.day.length = 2)
  | none => false

/-- A text without one line feed at its end. -/
def dropFinalBreak (characters : List Char) : List Char :=
  if characters.getLast? = some '\n' then characters.dropLast else characters

/-- The tag of a plain scalar of one line. -/
def lineTag (text : String) : NodeTag :=
  let characters := text.toList
  if trueWords.contains text || falseWords.contains text then .bool
  else if isFloat characters then .float
  else if isInt characters then .int
  else if text = "<<" then .merge
  else if nullWords.contains text then .null
  else if isMoment characters then .timestamp
  else if text = "=" then .whole
  else .text

/-- The tag of a scalar that is told from its text.  A line feed at the end does not count,
unless it is all there is. -/
def tag (text : String) : NodeTag :=
  let characters := text.toList
  if characters = ['\n'] then .text else lineTag (String.ofList (dropFinalBreak characters))

end Plain
end Yaml
end Snippets
