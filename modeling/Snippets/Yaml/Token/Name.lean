import Snippets.Yaml.Cursor
import Snippets.Yaml.Token
import Snippets.Number.Reading
import Snippets.Text.Utf8

/-!
# Names, tags and directives

The parts of a stream that speak about its nodes: names for nodes and references to
them, tags, and directives at the start of a document.
-/

namespace Snippets
namespace Yaml
namespace Name

/-- Whether a name may end before the next character. -/
def ends : Option Char → Bool
  | none => true
  | some character =>
      endsWord (some character) || "?:,]\x7d%@\x60".toList.contains character

/-- Reads the name after the mark of an anchor or of a reference. -/
def read (cursor : Cursor) : Except Failure (String × Cursor) :=
  let (name, after) := cursor.advance.span isNameCharacter
  if name ≠ [] ∧ ends after.next? then .ok (String.ofList name, after)
  else .error .malformed

end Name

namespace Tag

/-- Reads a handle: an exclamation mark, or a name between two of them. -/
def handle (cursor : Cursor) : Except Failure (String × Cursor) :=
  if cursor.next? ≠ some '!' then .error .malformed
  else if cursor.ahead? 1 = some ' ' then .ok ("!", cursor.advance)
  else
    let (name, after) := cursor.advance.span isNameCharacter
    if after.next? = some '!' then .ok (String.ofList ('!' :: name ++ ['!']), after.advance)
    else .error .malformed

/-- Reads bytes that are given as a percent sign and two digits each. -/
def bytes : Nat → List UInt8 → Cursor → Except Failure (List UInt8 × Cursor)
  | 0, found, cursor => .ok (found.reverse, cursor)
  | fuel + 1, found, cursor =>
      if cursor.next? = some '%' then
        let digits := cursor.advance.rest.take 2
        if digits.length = 2 ∧ digits.all isHexDigit then
          bytes fuel ((Number.ofDigits 16 digits).toUInt8 :: found) (cursor.skip 3)
        else .error .malformed
      else .ok (found.reverse, cursor)

/-- Reads the characters of a tag, after those found, which are in reverse. -/
def charactersFrom : Nat → List Char → Cursor → Except Failure (List Char × Cursor)
  | 0, found, cursor => .ok (found.reverse, cursor)
  | fuel + 1, found, cursor =>
      match cursor.next? with
      | none => .ok (found.reverse, cursor)
      | some '%' =>
          match bytes (cursor.left + 1) [] cursor with
          | .error failure => .error failure
          | .ok (bytes, after) =>
              match Text.decodeUtf8 bytes with
              | some characters => charactersFrom fuel (characters.reverse ++ found) after
              | none => .error .malformed
      | some character =>
          if isTagCharacter character then
            charactersFrom fuel (character :: found) cursor.advance
          else .ok (found.reverse, cursor)

/-- Reads the characters of a tag, of which there is at least one. -/
def characters (cursor : Cursor) : Except Failure (String × Cursor) := do
  let (text, after) ← charactersFrom (cursor.left + 1) [] cursor
  if text = [] then throw .malformed
  return (String.ofList text, after)

/-- Whether an exclamation mark follows before the end of the word. -/
def hasHandle (cursor : Cursor) : Bool :=
  (cursor.advance.rest.takeWhile fun character => !endsPart (some character)).contains '!'

/-- Reads the parts of a tag from its exclamation mark on. -/
def parts (cursor : Cursor) : Except Failure (Option String × String × Cursor) := do
  if cursor.ahead? 1 = some '<' then
    let (text, after) ← characters (cursor.skip 2)
    if after.next? = some '>' then return (none, text, after.advance) else throw .malformed
  else if endsWord (cursor.ahead? 1) then return (none, "!", cursor.advance)
  else if hasHandle cursor then
    let (handle, after) ← handle cursor
    let (text, after) ← characters after
    return (some handle, text, after)
  else
    let (text, after) ← characters cursor.advance
    return (some "!", text, after)

/-- Reads a tag from its exclamation mark on. -/
def read (cursor : Cursor) : Except Failure (Token × Cursor) := do
  let (handle, text, after) ← parts cursor
  if endsPart after.next? then return (.tag handle text, after) else throw .malformed

end Tag

namespace Directive

/-- Reads a number of a version. -/
def number (cursor : Cursor) : Except Failure (Nat × Cursor) :=
  let (digits, after) := cursor.span Char.isDigit
  if digits = [] then .error .malformed
  else if Number.mostDigits < digits.length then .error .outOfRange
  else .ok (Number.ofDigits 10 digits, after)

/-- Reads the version of the language. -/
def version (cursor : Cursor) : Except Failure (Token × Cursor) := do
  let (major, after) ← number (cursor.skipWhile (· = ' '))
  if after.next? ≠ some '.' then throw .malformed
  let (_, after) ← number after.advance
  if endsPart after.next? then return (.version major, after) else throw .malformed

/-- Reads a handle and the start of a tag that it stands for. -/
def tagHandle (cursor : Cursor) : Except Failure (Token × Cursor) := do
  let (handle, after) ← Tag.handle (cursor.skipWhile (· = ' '))
  if after.next? ≠ some ' ' then throw .malformed
  let (start, after) ← Tag.characters (after.skipWhile (· = ' '))
  if endsPart after.next? then return (.tagHandle handle start, after) else throw .malformed

/-- Reads what follows the name of a directive. -/
def content (name : String) (cursor : Cursor) : Except Failure (Token × Cursor) :=
  match name with
  | "YAML" => version cursor
  | "TAG" => tagHandle cursor
  | _ => .ok (.otherDirective, cursor.skipWhile fun character => !isBreak character)

/-- Reads a directive from its percent sign to the end of its line. -/
def read (cursor : Cursor) : Except Failure (Token × Cursor) := do
  let (name, after) := cursor.advance.span isNameCharacter
  if name = [] ∨ !endsPart after.next? then throw .malformed
  let (token, after) ← content (String.ofList name) after
  let after := after.skipComment
  if endsLine after.next? then return (token, after.lineBreak.2) else throw .malformed

end Directive
end Yaml
end Snippets
