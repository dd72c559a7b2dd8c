import Snippets.Number.Binary64
import Snippets.Terminal.Markup
import Snippets.Terminal.Wrap

/-!
# Tables

A table has columns with titles and rows of cells, which are marked-up texts.  Columns are
as wide as their widest cell; where that is too wide for the terminal, the widest columns
that may be broken are narrowed first, and then all of them.
-/

namespace Snippets
namespace Terminal

/-- A column. -/
structure Column where
  /-- The title. -/
  title : String
  /-- Whether cells are put at the right. -/
  isRight : Bool := false
  /-- Whether cells may be broken into lines. -/
  breaks : Bool := false
  deriving DecidableEq, Repr

namespace Table

/-- The cells on either side of the text of a cell. -/
def padding : Nat := 2

/-- Whether a character ends a line of a cell when its width is measured. -/
def endsLine (character : Char) : Bool :=
  let code := character.toNat
  (10 ≤ code && code ≤ 13) || (28 ≤ code && code ≤ 30) || code = 0x85 || code = 0x2028 ||
    code = 0x2029

/-- The parts of a text between separators. -/
def partsBetween (separates : Char → Bool) (text : List Char) : List (List Char) :=
  text.foldr
    (fun character parts =>
      if separates character then [] :: parts
      else
        match parts with
        | part :: rest => (character :: part) :: rest
        | [] => [[character]])
    [[]]

/-- The greatest width of the parts of a text between separators. -/
def widest (separates : Char → Bool) (text : List Char) : Nat :=
  ((partsBetween separates text).map width).foldl max 0

/-- The width that a column takes for a cell if it may take so many cells at most. -/
def cellWidth (limit : Nat) (cell : List Char) : Nat :=
  if limit < padding + 1 then limit else min limit (min limit (widest endsLine cell) + padding)

/-- The width of a column with some cells. -/
def columnWidth (limit : Nat) (cells : List (List Char)) : Nat :=
  if limit = 0 then 0 else min limit ((cells.map (cellWidth limit)).foldl max 0)

/-- Takes a total from values, each as its share says but not more than its greatest
part. -/
def reduceFrom : Nat → Nat → List (Nat × Nat × Nat) → List Nat
  | _, _, [] => []
  | remaining, shares, (share, most, value) :: rest =>
      if share = 0 ∨ shares = 0 then value :: reduceFrom remaining shares rest
      else
        let part := min most (Number.roundHalfEven (share * remaining) shares)
        (value - part) :: reduceFrom (remaining - part) (shares - share) rest

/-- Takes a total from values. -/
def reduce (total : Nat) (shares most values : List Nat) : List Nat :=
  let shares := (shares.zip most).map fun entry => if entry.2 = 0 then 0 else entry.1
  let sum := shares.foldl (· + ·) 0
  if sum = 0 then values else reduceFrom total sum (shares.zip (most.zip values))

/-- The sum of widths. -/
def total (widths : List Nat) : Nat :=
  widths.foldl (· + ·) 0

/-- Narrows the widest columns that may be broken until all columns fit. -/
def collapse (limit : Nat) (breaks : List Bool) : Nat → List Nat → List Nat
  | 0, widths => widths
  | fuel + 1, widths =>
      let excess := total widths - limit
      if excess = 0 then widths
      else
        let breakable := (widths.zip breaks).map fun entry => if entry.2 then entry.1 else 0
        let greatest := breakable.foldl max 0
        let second := (breakable.filter (· != greatest)).foldl max 0
        let shares := (widths.zip breaks).map fun entry =>
          if entry.2 && entry.1 = greatest then 1 else 0
        if greatest = second ∨ ¬breaks.contains true then widths
        else
          let most := widths.map fun _ => min excess (greatest - second)
          collapse limit breaks fuel (reduce excess shares most widths)

/-- The widths of columns with their cells, the title among them. -/
def widths (limit : Nat) (columns : List (Column × List (List Char))) : List Nat :=
  let measured := columns.map fun column => max 1 (columnWidth limit column.2)
  if total measured ≤ limit then measured
  else
    let collapsed := collapse limit (columns.map fun column => column.1.breaks)
      (total measured) measured
    let excess := total collapsed - limit
    let reduced :=
      if excess = 0 then collapsed
      else reduce excess (collapsed.map fun _ => 1) collapsed collapsed
    (reduced.zip columns).map fun entry => columnWidth entry.1 entry.2.2

/-- The lines of a cell in a column of a width.  There are none where nothing is left for
the text. -/
def cellLines (column : Column) (width : Nat) (cell : List Char) : List (List Char) :=
  if width ≤ padding then []
  else
    let alignment := if column.isRight then Alignment.right else .left
    (wrap (width - padding) alignment .ellipsis column.breaks cell).map fun line =>
      ' ' :: setWidth (width - padding) line ++ [' ']

/-- The signs of a line of a table: at its start, between cells, and at its end. -/
structure Signs where
  /-- At the start. -/
  first : Char
  /-- Between cells. -/
  between : Char
  /-- At the end. -/
  last : Char

/-- Joins cells by signs.  What does not fit is cut off. -/
def joinCells (limit : Nat) (signs : Signs) (cells : List (List Char)) : List Char :=
  let line := signs.first :: ([signs.between].intercalate cells) ++ [signs.last]
  if width line ≤ limit then line else setWidth limit line

/-- A line of one sign across all columns. -/
def rule (limit : Nat) (signs : Signs) (sign : Char) (widths : List Nat) : List Char :=
  joinCells limit signs (widths.map fun width => List.replicate width sign)

/-- The lines of a row. -/
def rowLines (limit : Nat) (signs : Signs) (columns : List (Column × Nat))
    (cells : List (List Char)) : List (List Char) :=
  let lines := (columns.zip cells).map fun entry => cellLines entry.1.1 entry.1.2 entry.2
  let height := (lines.map List.length).foldl max 1
  (List.range height).map fun index =>
    joinCells limit signs ((columns.zip lines).map fun entry =>
      entry.2[index]?.getD (List.replicate entry.1.2 ' '))

/-- The cells of a column of a number in all rows. -/
def columnCells (rows : List (List (List Char))) (number : Nat) : List (List Char) :=
  rows.map fun row => row[number]?.getD []

/-- The lines of a table whose cells hold no markup any more. -/
def lines (limit : Nat) (columns : List Column) (rows : List (List (List Char))) :
    List (List Char) :=
  let titles := columns.map fun column => column.title.toList
  let cells := (columns.zipIdx).map fun entry =>
    (entry.1, columnCells (titles :: rows) entry.2)
  let widths := widths (limit - (columns.length + 1)) cells
  let sized := columns.zip widths
  [rule limit ⟨'┏', '┳', '┓'⟩ '━' widths] ++
    rowLines limit ⟨'┃', '┃', '┃'⟩ sized titles ++
    [rule limit ⟨'┡', '╇', '┩'⟩ '━' widths] ++
    rows.flatMap (rowLines limit ⟨'│', '│', '│'⟩ sized) ++
    [rule limit ⟨'└', '┴', '┘'⟩ '─' widths]

/-- The lines of a table whose cells are marked up. -/
def markedLines (limit : Nat) (columns : List Column) (rows : List (List String)) :
    Except Markup.Failure (List (List Char)) := do
  let cells ← rows.mapM fun row : List String => row.mapM Markup.plain
  return lines limit columns cells

end Table
end Terminal
end Snippets
