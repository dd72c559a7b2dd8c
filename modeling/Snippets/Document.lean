import Snippets.Text.Blank
import Snippets.Text.LineBreak

/-!
# Documents

A document is a sequence of lines with a language and a kind that says how its
blocks are found.  Lines are numbered from zero.
-/

namespace Snippets

/-- One line, without its break. -/
structure Line where
  /-- The characters of the line. -/
  text : String
  deriving DecidableEq, Repr

namespace Line

/-- Whether a line is empty or holds blank characters only. -/
def isBlank (line : Line) : Bool :=
  Text.isBlankText line.text

end Line

/-- How the blocks of a document are found. -/
inductive DocumentKind where
  /-- Blocks stand between fences that carry a language tag. -/
  | tagged
  /-- The whole text is a block, and so are its sections. -/
  | plain
  deriving DecidableEq, Repr

namespace DocumentKind

/-- The name of a kind. -/
def name : DocumentKind → String
  | tagged => "tagged"
  | plain => "plain"

/-- The kind of a name. -/
def ofName? (name : String) : Option DocumentKind :=
  [tagged, plain].find? fun kind => kind.name == name

end DocumentKind

/-- Lines with a language and a kind. -/
structure Document where
  /-- The lines in order. -/
  lines : List Line
  /-- The language of the document itself. -/
  language : String
  /-- How its blocks are found. -/
  kind : DocumentKind
  deriving DecidableEq, Repr

namespace Document

/-- The document of a text, cut at its line breaks. -/
def ofText (text : String) (language : String) (kind : DocumentKind) : Document where
  lines := (Text.splitLines text.toList).map fun line => ⟨String.ofList line⟩
  language := language
  kind := kind

/-- The number of lines. -/
def lineCount (document : Document) : Nat :=
  document.lines.length

/-- The text of some lines, with a line feed between them. -/
def textOf (lines : List Line) : String :=
  Text.joinLines (lines.map Line.text)

/-- The place of a bound in a list of the given length.  A negative bound counts
from the end, and a bound outside is moved to the nearest end. -/
def clampBound (length : Nat) (bound : Int) : Nat :=
  if bound < 0 then (bound + length).toNat else min bound.toNat length

/-- The lines from one bound up to but without another. -/
def slice (document : Document) (start stop : Int) : List Line :=
  let first := clampBound document.lineCount start
  let last := clampBound document.lineCount stop
  (document.lines.drop first).take (last - first)

/-- The text from one line to another, both included. -/
def textBetween (document : Document) (start stop : Int) : String :=
  textOf (document.slice start (stop + 1))

end Document
end Snippets
