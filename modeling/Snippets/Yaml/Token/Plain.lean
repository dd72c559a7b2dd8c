import Snippets.Yaml.Cursor

/-!
# Plain scalars

A scalar without quotes.  It may go on over several lines that are indented deeply
enough, and ends where a mark of the language could follow.
-/

namespace Snippets
namespace Yaml
namespace Plain

/-- The characters that start something other than a plain scalar. -/
def indicators : List Char := "-?:,[]\x7b\x7d#&*!|>'\"%@\x60".toList

/-- The characters that end a plain scalar inside brackets or braces. -/
def flowEnds : List Char := ",?[]\x7b\x7d".toList

/-- The characters that end a plain scalar inside brackets or braces where they follow a
colon. -/
def flowEndsAfterColon : List Char := ",[]\x7b\x7d".toList

/-- Whether a plain scalar can start with the next character. -/
def starts (inFlow : Bool) (cursor : Cursor) : Bool :=
  match cursor.next? with
  | none => false
  | some character =>
      (!endsWord (some character) && !indicators.contains character) ||
        (!endsWord (cursor.ahead? 1) &&
          (character = '-' || (!inFlow && (character = '?' || character = ':'))))

/-- The characters of a plain scalar up to the next space, after those already found,
which are in reverse. -/
def wordFrom (inFlow : Bool) (found : List Char) : List Char → List Char
  | [] => found.reverse
  | character :: rest =>
      let after := rest.head?
      if endsWord (some character) then found.reverse
      else if character = ':' ∧ (endsWord after ∨
          (inFlow ∧ after.any fun next => flowEndsAfterColon.contains next)) then found.reverse
      else if inFlow ∧ flowEnds.contains character then found.reverse
      else wordFrom inFlow (character :: found) rest

/-- The line breaks from here on, with the spaces between them left out, after those
found, which are in reverse.  There is no answer if a document starts or ends after one
of them. -/
def breaks : Nat → List Char → Cursor → Option (List Char) × Cursor
  | 0, found, cursor => (some found.reverse, cursor)
  | fuel + 1, found, cursor =>
      let cursor := cursor.skipWhile (· = ' ')
      match cursor.lineBreak with
      | ([], _) => (some found.reverse, cursor)
      | (next, after) =>
          if after.atDocumentMark then (none, after) else breaks fuel (next ++ found) after

/-- What the space after a word is read as, the place after it, and whether a line ends
in it.  Nothing means that the scalar ends. -/
def blank (cursor : Cursor) : List Char × Cursor × Bool :=
  let (spaces, after) := cursor.span (· = ' ')
  match after.lineBreak with
  | ([], _) => (spaces, after, false)
  | (first, after) =>
      if after.atDocumentMark then ([], after, true)
      else
        match breaks (after.left + 1) [] after with
        | (none, after) => ([], after, true)
        | (some others, after) =>
            (if first ≠ ['\n'] then first ++ others
             else if others = [] then [' '] else others, after, true)

/-- Reads words, after the characters and the space found, which are in reverse.  The
result tells whether the scalar is followed by a new line. -/
def readFrom (inFlow : Bool) (indent : Nat) :
    Nat → List Char → List Char → Bool → Cursor → List Char × Cursor × Bool
  | 0, found, _, newLine, cursor => (found.reverse, cursor, newLine)
  | fuel + 1, found, space, newLine, cursor =>
      let word := wordFrom inFlow [] cursor.rest
      if cursor.next? = some '#' ∨ word = [] then (found.reverse, cursor, newLine)
      else
        let found := word.reverse ++ (space ++ found)
        let (space, after, newLine) := blank (cursor.skip word.length)
        if space = [] ∨ after.next? = some '#' ∨ (!inFlow ∧ after.column < indent) then
          (found.reverse, after, newLine)
        else readFrom inFlow indent fuel found space.reverse newLine after

/-- Reads a plain scalar whose lines are indented by the given number of columns.  The
result tells whether it is followed by a new line. -/
def read (inFlow : Bool) (indent : Nat) (cursor : Cursor) : List Char × Cursor × Bool :=
  readFrom inFlow indent (cursor.left + 1) [] [] false cursor

end Plain
end Yaml
end Snippets
