import Snippets.Yaml.Cursor
import Snippets.Yaml.Token
import Snippets.Number.Reading

/-!
# Quoted scalars

A scalar in single or double quotes.  A line break with the spaces around it is read as
a space, and each further break as itself; double quotes know escapes.
-/

namespace Snippets
namespace Yaml
namespace Quoted

/-- The characters that a letter after a backslash stands for. -/
def escapes : List (Char × Char) :=
  [('0', '\x00'), ('a', '\x07'), ('b', '\x08'), ('t', '\t'), ('\t', '\t'), ('n', '\n'),
   ('v', '\x0b'), ('f', '\x0c'), ('r', '\r'), ('e', '\x1b'), (' ', ' '), ('"', '"'),
   ('\\', '\\'), ('/', '/'), ('N', '\x85'), ('_', '\xa0'), ('L', '\u2028'), ('P', '\u2029')]

/-- The numbers of digits after the letters that announce the code of a character. -/
def codeLengths : List (Char × Nat) := [('x', 2), ('u', 4), ('U', 8)]

/-- The codes of some characters. -/
def codes (characters : List Char) : List Nat :=
  characters.map Char.toNat

/-- A code of a text, which may be half of a surrogate pair. -/
def checkCode (code : Nat) : Except Failure Nat :=
  if 0x7FFFFFFF < code then .error .oversizedCode
  else if 0x10FFFF < code then .error .outOfRange
  else .ok code

/-- The breaks after the first one, with the spaces around them left out, after those
found, which are in reverse. -/
def breaks : Nat → List Char → Cursor → Except Failure (List Char × Cursor)
  | 0, _, _ => .error .malformed
  | fuel + 1, found, cursor =>
      if cursor.atDocumentMark then .error .malformed
      else
        let after := cursor.skipWhile isSpace
        match after.lineBreak with
        | ([], _) => .ok (found.reverse, after)
        | (next, after) => breaks fuel (next ++ found) after

/-- What a first break and the breaks after it are read as. -/
def fold (first others : List Char) : List Char :=
  if first ≠ ['\n'] then first ++ others else if others = [] then [' '] else others

/-- The codes that an escape stands for, read from the character after the backslash. -/
def escape (cursor : Cursor) : Except Failure (List Nat × Cursor) :=
  match cursor.next? with
  | none => .error .malformed
  | some letter =>
      match escapes.lookup letter, codeLengths.lookup letter with
      | some character, _ => .ok ([character.toNat], cursor.advance)
      | none, some length =>
          let digits := cursor.advance.rest.take length
          if digits.length = length ∧ digits.all isHexDigit then
            match checkCode (Number.ofDigits 16 digits) with
            | .ok code => .ok ([code], cursor.skip (length + 1))
            | .error failure => .error failure
          else .error .malformed
      | none, none =>
          if isBreak letter then
            let after := cursor.lineBreak.2
            match breaks (after.left + 1) [] after with
            | .ok (others, after) => .ok (codes others, after)
            | .error failure => .error failure
          else .error .malformed

/-- Spaces or a line break inside quotes, read from the first of them. -/
def blank (cursor : Cursor) : Except Failure (List Char × Cursor) :=
  let (spaces, after) := cursor.span isSpace
  match after.lineBreak with
  | ([], _) => .ok (spaces, after)
  | (first, after) =>
      match breaks (after.left + 1) [] after with
      | .ok (others, after) => .ok (fold first others, after)
      | .error failure => .error failure

/-- Reads up to the closing quote, after the codes found, which are in reverse. -/
def readFrom (quote : Char) :
    Nat → List Nat → Cursor → Except Failure (List Nat × Cursor)
  | 0, _, _ => .error .malformed
  | fuel + 1, found, cursor =>
      match cursor.rest with
      | [] => .error .malformed
      | character :: rest =>
          if character = quote then
            if quote = '\'' ∧ rest.head? = some quote then
              readFrom quote fuel (quote.toNat :: found) (cursor.skip 2)
            else .ok (found.reverse, cursor.advance)
          else if character = '\\' ∧ quote = '"' then
            match escape cursor.advance with
            | .ok (meaning, after) => readFrom quote fuel (meaning.reverse ++ found) after
            | .error failure => .error failure
          else if isSpace character ∨ isBreak character then
            match blank cursor with
            | .ok (meaning, after) =>
                readFrom quote fuel ((codes meaning).reverse ++ found) after
            | .error failure => .error failure
          else readFrom quote fuel (character.toNat :: found) cursor.advance

/-- Reads a quoted scalar from its opening quote on. -/
def read (cursor : Cursor) : Except Failure (ScalarText × Cursor) :=
  match cursor.next? with
  | some quote => do
      let (codes, after) ← readFrom quote (cursor.left + 1) [] cursor.advance
      return (.ofCodes codes, after)
  | none => .error .malformed

end Quoted
end Yaml
end Snippets
