import Snippets.Shell.Command
import Snippets.Shell.Octets
import Snippets.Shell.Words

/-!
# Braces

Before anything else is done with a word, its braces are multiplied out: alternatives
between commas, and rows of numbers or letters.
-/

namespace Snippets
namespace Shell
namespace Braces

/-- Parts of single characters and other parts. -/
def single (parts : List Part) : List Part :=
  parts.flatMap fun
    | .plain octets => octets.map fun octet => .plain [octet]
    | part => [part]

/-- The alternatives up to a closing brace, and what follows it.  Those found, and the one
at hand, are in reverse. -/
def alternatives : Nat → List (List Part) → List Part → List Part →
    Option (List (List Part) × List Part)
  | _, _, _, [] => none
  | depth, found, current, part :: rest =>
      match part, depth with
      | .plain ['\x7b'], depth => alternatives (depth + 1) found (part :: current) rest
      | .plain ['\x7d'], 0 => some ((current.reverse :: found).reverse, rest)
      | .plain ['\x7d'], depth + 1 => alternatives depth found (part :: current) rest
      | .plain [','], 0 => alternatives 0 (current.reverse :: found) [] rest
      | part, depth => alternatives depth found (part :: current) rest

/-- The parts of a text between pairs of dots. -/
def dotted : List Char → List Char → List (List Char)
  | current, [] => [current.reverse]
  | current, '.' :: '.' :: rest => current.reverse :: dotted [] rest
  | current, octet :: rest => dotted (octet :: current) rest

/-- The values from one number to another, a step apart. -/
def row (first last step : Int) : List Int :=
  let distance := if step = 0 then 1 else step.natAbs
  (List.range ((last - first).natAbs / distance + 1)).map fun index : Nat =>
    let change := (index : Int) * distance
    if first ≤ last then first + change else first - change

/-- The width to which the numbers of a row are filled up: that of an end which is written
with a zero at its start. -/
def widthOf (first last : List Char) : Nat :=
  let isFilled : List Char → Bool := fun text =>
    match text with
    | '-' :: '0' :: _ :: _ => true
    | '0' :: _ :: _ => true
    | _ => false
  if isFilled first ∨ isFilled last then max first.length last.length else 0

/-- A number with zeros after its sign, up to a width. -/
def filled (width : Nat) (value : Int) : List Char :=
  let digits := ofNat value.natAbs
  let sign := if value < 0 then ['-'] else []
  sign ++ List.replicate (width - sign.length - digits.length) '0' ++ digits

/-- The numbers, or letters, from one to another. -/
def range? (text : List Char) : Option (List (List Char)) :=
  let make := fun (first last : List Char) (step : Int) =>
    match toInt? first, toInt? last with
    | some low, some high =>
        some ((row low high step).map (filled (widthOf first last)))
    | _, _ =>
        match first, last with
        | [low], [high] =>
            if low.isAlpha ∧ high.isAlpha then
              some ((row low.toNat high.toNat step).map fun code => [Char.ofNat code.toNat])
            else none
        | _, _ => none
  match dotted [] text with
  | [first, last] => make first last 1
  | [first, last, step] => (toInt? step).bind (make first last)
  | _ => none

/-- The characters of parts without expansions and quotes. -/
def plainText? (parts : List Part) : Option (List Char) :=
  (parts.mapM fun part : Part =>
    match part with
    | .plain octets => some octets
    | _ => none).map List.flatten

/-- A text of a range as a part.  A sign in it stands for itself, but a backslash for nothing. -/
def literal (text : List Char) : Part :=
  if text = ['\\'] then .quoted []
  else if text.all fun octet => octet.isAlphanum ∨ octet = '-' then .plain text else .quoted text

/-- The words that parts stand for, after those before them, which are in reverse. -/
def multiplyFrom : Nat → List Part → List Part → List (List Part)
  | 0, before, rest => [before.reverse ++ rest]
  | _, before, [] => [before.reverse]
  | fuel + 1, before, part :: rest =>
      match part with
      | .plain ['\x7b'] =>
          let choices : Option (List (List Part) × List Part) :=
            match alternatives 0 [] [] rest with
            | some ([only], after) =>
                (plainText? only).bind fun text =>
                  (range? text).map fun found =>
                    (found.map fun text => [literal text], after)
            | found => found
          match choices with
          | some (words, after) => words.flatMap fun word =>
              multiplyFrom fuel before (word ++ after)
          | none => multiplyFrom fuel (part :: before) rest
      | part => multiplyFrom fuel (part :: before) rest

/-- Parts with neighbours of one kind joined. -/
def join : List Part → List Part
  | .plain first :: rest =>
      match join rest with
      | .plain second :: rest => .plain (first ++ second) :: rest
      | rest => .plain first :: rest
  | part :: rest => part :: join rest
  | [] => []

/-- Whether a text is within another one. -/
def isWithin (text : List Char) : List Char → Bool
  | [] => text.isEmpty
  | octet :: rest => text.isPrefixOf (octet :: rest) || isWithin text rest

/-- Parts in which the name of a parameter takes the characters of a name that have come to follow
it, if no braces of its own are around it in the text of the word. -/
def lengthenNames (text : List Char) : List Part → List Part
  | .parameter subject .value [] false :: .plain octets :: rest =>
      let name := subject.name
      let more := octets.takeWhile Words.isName
      if subject.subscript.isNone ∧ !subject.indirect ∧ Words.isWholeName name ∧ !more.isEmpty ∧
          isWithin ('$' :: name ++ ['\x7b']) text then
        .parameter { subject with name := name ++ more } .value [] false ::
          .plain (octets.drop more.length) :: lengthenNames text rest
      else .parameter subject .value [] false :: .plain octets :: lengthenNames text rest
  | part :: rest => part :: lengthenNames text rest
  | [] => []

/-- The words that a word with a text stands for before its expansions. -/
def multiply (text : List Char) (parts : List Part) : List (List Part) :=
  let hasBrace := parts.any fun
    | .plain octets => octets.contains '\x7b'
    | _ => false
  if hasBrace then
    let parts := single parts
    (multiplyFrom (64 * parts.length + 64) [] parts).map (lengthenNames text ∘ join)
  else [parts]

end Braces
end Shell
end Snippets
