import Snippets.Shell.Command
import Snippets.Shell.Pattern

/-!
# Splitting into fields

What a word has become is split at the characters that separate fields, as far as it is the
value of an expansion outside quotes.
-/

namespace Snippets
namespace Shell

/-- A part of a word after its expansion. -/
inductive Piece where
  /-- Characters that are not split, and whether they are quoted. -/
  | octets (text : List Char) (quoted : Bool)
  /-- Characters that may be split. -/
  | value (text : List Char)
  /-- Separate fields, whether they are quoted, and what stands between them where they are
  not separate. -/
  | fields (texts : List (List Char)) (quoted : Bool) (between : List Char)

namespace Piece

/-- The text of a piece that is not split. -/
def text : Piece → List Char
  | octets text _ => text
  | value text => text
  | fields texts _ between => between.intercalate texts

/-- The characters of a piece as those of a pattern.  The characters of a text are told from
its octets by a function. -/
def glyphs (decode : List Char → List Char) : Piece → List Glyph
  | octets text quoted => (decode text).map fun character => (character, quoted)
  | value text => (decode text).map fun character => (character, false)
  | fields texts quoted between =>
      (decode (between.intercalate texts)).map fun character => (character, quoted)

end Piece

/-- Fields while they are being split: those that are complete, in reverse, the one at hand,
in reverse, if it has been started, and whether a separator that is no blank may still belong
to the end of the last field. -/
structure Splitting where
  /-- The complete fields. -/
  complete : List (List Glyph)
  /-- The field at hand. -/
  current : Option (List Glyph)
  /-- Whether the last field ended at a blank. -/
  afterBlank : Bool

namespace Splitting

/-- Nothing split yet. -/
def start : Splitting := ⟨[], none, false⟩

/-- Ends the field at hand. -/
def finish (splitting : Splitting) : Splitting :=
  match splitting.current with
  | some field => ⟨field.reverse :: splitting.complete, none, false⟩
  | none => splitting

/-- Adds a character that is not split. -/
def push (glyph : Glyph) (splitting : Splitting) : Splitting :=
  { splitting with current := some (glyph :: splitting.current.getD []), afterBlank := false }

/-- Adds a character of a value. -/
def pushValue (separators : List Char) (splitting : Splitting) (character : Char) : Splitting :=
  if separators.contains character then
    if " \t\n".toList.contains character then
      if splitting.current.isSome then { splitting.finish with afterBlank := true }
      else splitting
    else if splitting.current.isNone ∧ splitting.afterBlank then
      { splitting with afterBlank := false }
    else { splitting with current := some (splitting.current.getD []) }.finish
  else splitting.push (character, false)

/-- Adds a text that is not split. -/
def pushText (quoted : Bool) (text : List Char) (splitting : Splitting) : Splitting :=
  let splitting :=
    if quoted then
      { splitting with current := some (splitting.current.getD []), afterBlank := false }
    else splitting
  text.foldl (fun splitting character => splitting.push (character, quoted)) splitting

/-- Adds a piece. -/
def pushPiece (separators : List Char) (splitting : Splitting) : Piece → Splitting
  | .octets text quoted => splitting.pushText quoted text
  | .value text => text.foldl (pushValue separators) splitting
  | .fields [] _ _ => splitting
  | .fields (first :: rest) quoted _ =>
      let add := fun (splitting : Splitting) (text : List Char) =>
        if quoted then splitting.pushText true text
        else text.foldl (pushValue separators) splitting
      rest.foldl (fun splitting text => add { splitting.finish with afterBlank := false } text)
        (add splitting first)

/-- All fields. -/
def fields (splitting : Splitting) : List (List Glyph) :=
  splitting.finish.complete.reverse

end Splitting

/-- Pieces without the quotes around fields of which there are none.  In one of the shells such
quotes hold nothing else. -/
def withoutVoid (dialect : Dialect) : List Piece → List Piece
  | .octets [] true :: .fields [] true separator :: rest =>
      let isMore : Bool := match rest with
        | .fields [] true _ :: _ => true
        | _ => false
      if dialect = .plain ∧ isMore then
        .octets [] true :: .fields [] true separator :: withoutVoid dialect rest
      else withoutVoid dialect rest
  | piece :: rest => piece :: withoutVoid dialect rest
  | [] => []

/-- The fields of pieces. -/
def splitPieces (dialect : Dialect) (separators : List Char) (pieces : List Piece) :
    List (List Glyph) :=
  ((withoutVoid dialect pieces).foldl (Splitting.pushPiece separators) .start).fields

end Shell
end Snippets
