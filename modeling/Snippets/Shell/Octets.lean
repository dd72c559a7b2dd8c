import Snippets.Text.Lowercase
import Snippets.Text.Utf8

/-!
# Octets

A shell handles bytes.  Here each byte is the character of its number, so that bytes can
be compared with the characters of the language; a text is turned into octets by its
encoding.
-/

namespace Snippets
namespace Shell

/-- Bytes as the characters of their numbers. -/
def ofBytes (bytes : List UInt8) : List Char :=
  bytes.map fun byte => Char.ofNat byte.toNat

/-- The bytes of octets. -/
def toBytes (octets : List Char) : List UInt8 :=
  octets.map fun octet => octet.toNat.toUInt8

/-- The octets of a text. -/
def ofText (text : String) : List Char :=
  ofBytes (Text.encodeUtf8 text.toList)

/-- The text of octets.  Where they encode none, every octet beyond ASCII is replaced. -/
def toText (octets : List Char) : String :=
  match Text.decodeUtf8 (toBytes octets) with
  | some characters => String.ofList characters
  | none =>
      String.ofList (octets.map fun octet => if octet.toNat < 0x80 then octet else '\uFFFD')

/-- The number of octets of a character by the first one of them. -/
def characterLength (lead : Char) : Nat :=
  if lead.toNat < 0xC0 then 1
  else if lead.toNat < 0xE0 then 2
  else if lead.toNat < 0xF0 then 3
  else 4

/-- The code of the character that stands for octet zero where that is part of no
character. -/
def strayCode : Nat := 0x10FF00

/-- The first character of octets that are not empty, and the number of its octets.  An
octet that is part of no character counts as one of its own. -/
def firstCharacter (lead : Char) (rest : List Char) : Char × Nat :=
  if lead.toNat < 0x80 then (lead, 1)
  else
    let length := characterLength lead
    match Text.decodeUtf8 (toBytes (lead :: rest.take (length - 1))) with
    | some [character] => (character, length)
    | _ => (Char.ofNat (strayCode + lead.toNat), 1)

/-- The characters of octets, of which at most the given number are read. -/
def charactersFrom : Nat → List Char → List Char
  | 0, _ => []
  | _, [] => []
  | fuel + 1, lead :: rest =>
      let (character, length) := firstCharacter lead rest
      character :: charactersFrom fuel (rest.drop (length - 1))

/-- The characters of octets. -/
def characters (octets : List Char) : List Char :=
  if octets.all fun octet => octet.toNat < 0x80 then octets
  else charactersFrom octets.length octets

/-- The octets of characters. -/
def ofCharacters (characters : List Char) : List Char :=
  characters.flatMap fun character =>
    if character.toNat < 0x80 then [character]
    else if strayCode + 0x80 ≤ character.toNat then [Char.ofNat (character.toNat - strayCode)]
    else ofBytes (Text.encodeChar character)

/-- The capital letter of a character. -/
def raiseCharacter (character : Char) : Char :=
  if character.toNat < 0x80 then character.toUpper
  else
    let code := character.toNat
    let run? := Text.caseRuns.find? fun run =>
      run.lower ≤ code && code ≤ run.lower + (run.last - run.first) &&
        (code - run.lower) % run.step = 0
    match run? with
    | some run => Char.ofNat (run.first + (code - run.lower))
    | none => character

/-- The small letter of a character. -/
def lowerCharacter (character : Char) : Char :=
  if character.toNat < 0x80 then character.toLower else Text.lowerChar character

/-- The octets of a natural number. -/
def ofNat (value : Nat) : List Char :=
  (toString value).toList

/-- The octets of a whole number. -/
def ofInt (value : Int) : List Char :=
  (toString value).toList

/-- The natural number that digits spell, if nothing else is there. -/
def toNat? (octets : List Char) : Option Nat :=
  if octets ≠ [] ∧ octets.all Char.isDigit then
    some (octets.foldl (fun value digit => value * 10 + (digit.toNat - 48)) 0)
  else none

/-- The whole number that digits with a sign spell, if nothing else is there. -/
def toInt? : List Char → Option Int
  | '-' :: digits => (toNat? digits).map fun value => -(value : Int)
  | '+' :: digits => (toNat? digits).map fun value => (value : Int)
  | digits => (toNat? digits).map fun value => (value : Int)

/-- The parts between line feeds, after those already found and the part at hand, both in
reverse. -/
def linesFrom (line : List Char) (found : List (List Char)) : List Char → List (List Char)
  | [] => (if line = [] then found else line.reverse :: found).reverse
  | '\n' :: rest => linesFrom [] (line.reverse :: found) rest
  | octet :: rest => linesFrom (octet :: line) found rest

/-- The lines of octets.  A line feed at the end starts no further line. -/
def lines (octets : List Char) : List (List Char) :=
  linesFrom [] [] octets

/-- Lines with a line feed after each of them. -/
def unlines (lines : List (List Char)) : List Char :=
  lines.flatMap fun line => line ++ ['\n']

/-- The parts between the occurrences of a separator. -/
def splitAt (separator : Char) (octets : List Char) : List (List Char) :=
  octets.foldr
    (fun octet parts =>
      if octet = separator then [] :: parts
      else
        match parts with
        | part :: rest => (octet :: part) :: rest
        | [] => [[octet]])
    [[]]

end Shell
end Snippets
