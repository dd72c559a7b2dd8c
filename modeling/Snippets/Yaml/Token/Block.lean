import Snippets.Yaml.Cursor
import Snippets.Yaml.Token
import Snippets.Number.Reading

/-!
# Block scalars

A scalar made of whole indented lines.  After a vertical bar the line breaks are kept;
after a greater-than sign a single break between lines that do not start with a space is
read as a space.  A sign says what becomes of the breaks at the end, and a digit how
deep the lines are indented.
-/

namespace Snippets
namespace Yaml
namespace Block

/-- What becomes of the line breaks at the end. -/
inductive Chomping where
  /-- None is kept. -/
  | strip
  /-- One is kept. -/
  | clip
  /-- All are kept. -/
  | keep
  deriving DecidableEq, Repr

/-- The sign that chooses what becomes of the line breaks at the end. -/
def chomping? : Option Char → Option Chomping
  | some '+' => some .keep
  | some '-' => some .strip
  | _ => none

/-- The digit that says how deep the lines are indented.  A zero says nothing. -/
def indentation? : Option Char → Except Failure (Option Nat)
  | some digit =>
      if digit = '0' then .error .malformed
      else if digit.isDigit then .ok (some (Number.digitValue digit))
      else .ok none
  | none => .ok none

/-- The sign and the digit after the mark of the scalar, in either order. -/
def header (cursor : Cursor) : Except Failure (Chomping × Option Nat × Cursor) := do
  match chomping? cursor.next? with
  | some chomping =>
      let cursor := cursor.advance
      match ← indentation? cursor.next? with
      | some depth => return (chomping, some depth, cursor.advance)
      | none => return (chomping, none, cursor)
  | none =>
      match ← indentation? cursor.next? with
      | some depth =>
          let cursor := cursor.advance
          match chomping? cursor.next? with
          | some chomping => return (chomping, some depth, cursor.advance)
          | none => return (.clip, some depth, cursor)
      | none => return (.clip, none, cursor)

/-- Skips the rest of a line that may hold nothing but a comment. -/
def skipLine (cursor : Cursor) : Except Failure Cursor :=
  let cursor := cursor.skipComment
  if endsLine cursor.next? then .ok cursor.lineBreak.2 else .error .malformed

/-- Skips spaces up to a column. -/
def skipIndent (column : Nat) (cursor : Cursor) : Cursor :=
  let spaces := (cursor.span (· = ' ')).1.length
  cursor.skip (min spaces (column - cursor.column))

/-- The line breaks from here on, with spaces up to a column between them, and the place
after both.  The breaks found are in reverse. -/
def breaks (column : Nat) : Nat → List Char → Cursor → List Char × Cursor
  | 0, found, cursor => (found.reverse, cursor)
  | fuel + 1, found, cursor =>
      let cursor := skipIndent column cursor
      match cursor.lineBreak with
      | ([], _) => (found.reverse, cursor)
      | (next, after) => breaks column fuel (next ++ found) after

/-- The line breaks from here on, with all spaces between them, and the greatest column
to which the spaces lead.  The breaks found are in reverse. -/
def leadingBreaks : Nat → List Char → Nat → Cursor → List Char × Nat × Cursor
  | 0, found, deepest, cursor => (found.reverse, deepest, cursor)
  | fuel + 1, found, deepest, cursor =>
      let cursor := cursor.skipWhile (· = ' ')
      let deepest := max deepest cursor.column
      match cursor.lineBreak with
      | ([], _) => (found.reverse, deepest, cursor)
      | (next, after) => leadingBreaks fuel (next ++ found) deepest after

/-- Whether a line of the scalar is here. -/
def atLine (column : Nat) (cursor : Cursor) : Bool :=
  cursor.column = column && cursor.next?.isSome

/-- The break of a line, and the further breaks after the last line. -/
abbrev Ending := List Char × List Char

/-- Reads lines, after the characters found, which are in reverse, and the breaks before
the line at hand. -/
def readLines (folded : Bool) (column : Nat) :
    Nat → List Char → List Char → Cursor → List Char × Ending × Cursor
  | 0, found, before, cursor => (found.reverse, ([], before), cursor)
  | fuel + 1, found, before, cursor =>
      let indented := cursor.next?.any isSpace
      let (line, after) := cursor.span fun character => !isBreak character
      let found := line.reverse ++ (before.reverse ++ found)
      let (first, after) := after.lineBreak
      let (others, after) := breaks column (after.left + 1) [] after
      if atLine column after then
        let joined :=
          if folded ∧ first = ['\n'] ∧ ¬indented ∧ ¬after.next?.any isSpace then
            (if others = [] then [' '] else [])
          else first
        readLines folded column fuel (joined.reverse ++ found) others after
      else (found.reverse, (first, others), after)

/-- The breaks that are kept at the end. -/
def chomp (chomping : Chomping) (ending : Ending) : List Char :=
  match chomping with
  | .strip => []
  | .clip => ending.1
  | .keep => ending.1 ++ ending.2

/-- Reads a block scalar from its mark on.  Its lines are indented by at least the given
number of columns. -/
def read (least : Nat) (cursor : Cursor) : Except Failure (List Char × Cursor) := do
  let folded := cursor.next? = some '>'
  let (chomping, depth, cursor) ← header cursor.advance
  if !endsPart cursor.next? then throw .malformed
  let cursor ← skipLine cursor
  let least := max 1 least
  let (column, before, cursor) :=
    match depth with
    | some depth =>
        let column := least + depth - 1
        let (before, cursor) := breaks column (cursor.left + 1) [] cursor
        (column, before, cursor)
    | none =>
        let (before, deepest, cursor) := leadingBreaks (cursor.left + 1) [] 0 cursor
        (max least deepest, before, cursor)
  if atLine column cursor then
    let (text, ending, cursor) := readLines folded column (cursor.left + 1) [] before cursor
    return (text ++ chomp chomping ending, cursor)
  else return (chomp chomping ([], before), cursor)

end Block
end Yaml
end Snippets
