import Snippets.Block

/-!
# Sections of plain text

Two or more blank lines in a row separate the sections of a plain text.  A single
blank line belongs to the section around it, and blank lines at either end belong
to none.
-/

namespace Snippets
namespace Section

/-- The first and the last line of a section. -/
abbrev Extent := Nat × Nat

/-- The number of consecutive blank lines that separates two sections. -/
def gap : Nat := 2

/-- The sections from line `index` on.  The open section, if there is one, is given
by its first line and its last line that is not blank; the sections already
closed are in reverse. -/
def scan (index : Nat) (current : Option Extent) (closed : List Extent) :
    List Line → List Extent
  | [] => (current.toList ++ closed).reverse
  | line :: rest =>
      if line.isBlank then scan (index + 1) current closed rest
      else
        match current with
        | none => scan (index + 1) (some (index, index)) closed rest
        | some (first, last) =>
            if gap < index - last then
              scan (index + 1) (some (index, index)) ((first, last) :: closed) rest
            else scan (index + 1) (some (first, index)) closed rest

/-- The sections of some lines in order. -/
def extents (lines : List Line) : List Extent :=
  scan 0 none [] lines

/-- The lines of an extent. -/
def linesOf (lines : List Line) (extent : Extent) : List Line :=
  (lines.drop extent.1).take (extent.2 + 1 - extent.1)

/-- The block of a section. -/
def block (language : String) (lines : List Line) (extent : Extent) : Block where
  start := extent.1
  stop := extent.2
  language := language
  code := Document.textOf (linesOf lines extent)
  anchor := extent.1

/-- The block of a whole plain text. -/
def wholeFile (language : String) (lines : List Line) : Block where
  start := 0
  stop := (lines.length : Int) - 1
  language := language
  code := Document.textOf lines
  anchor := 0

/-- The blocks of a plain text: the whole text, and its sections if there are at
least two.  There are none in a language that is not supported. -/
def blocks (isSupported : String → Bool) (language : String) (lines : List Line) : List Block :=
  if isSupported language then
    let sections := extents lines
    wholeFile language lines ::
      (if sections.length < 2 then [] else sections.map (block language lines))
  else []

end Section
end Snippets
