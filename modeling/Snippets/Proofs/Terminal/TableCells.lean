import Mathlib.Algebra.Order.BigOperators.Group.List
import Mathlib.Algebra.Order.Group.Nat
import Mathlib.Data.List.Forall2
import Snippets.Proofs.Terminal.Fitting
import Snippets.Proofs.Terminal.LiteralText

/-!
# Cells of tables

A column of a table is as wide as its widest cell, as long as the terminal is wide enough.  Then
each row of the table is one line, in which every cell stands as it is.
-/

namespace Snippets
namespace Terminal

/-! ## Widths of texts with spaces -/

/-- Each printable character of ASCII takes one cell. -/
theorem widthFrom_printable
    (total : Nat)
    (last : Option Char)
    {text : List Char}
    (printable : ∀ character ∈ text, 32 ≤ character.toNat ∧ character.toNat < 127) :
    widthFrom total last text = total + text.length := by
  induction text generalizing total last with
  | nil => rfl
  | cons character rest inductionHypothesis =>
      obtain ⟨low, high⟩ := printable character List.mem_cons_self
      have noJoiner : character ≠ joiner := by
        rintro rfl
        exact absurd high (by decide)
      have noSelector : character ≠ emojiSelector := by
        rintro rfl
        exact absurd high (by decide)
      have cell : charWidth character = 1 := by
        simp [charWidth, low, high]
      rw [widthFrom_cons _ _ noJoiner noSelector, cell,
        inductionHypothesis _ _ fun later present =>
          printable later (List.mem_cons_of_mem _ present), List.length_cons]
      omega

/-- Each space after a text takes one cell at most. -/
theorem width_append_spaces_le (text : List Char) (count : Nat) :
    width (text ++ List.replicate count ' ') ≤ width text + count := by
  have spaces (total : Nat) (last : Option Char) (count : Nat) :
      widthFrom total last (List.replicate count ' ') = total + count := by
    rw [widthFrom_printable, List.length_replicate]
    intro character present
    rw [List.eq_of_mem_replicate present]
    decide
  have counted (total : Nat) (last : Option Char) :
      widthFrom total last (text ++ List.replicate count ' ') ≤
        widthFrom total last text + count := by
    induction text using width_induction generalizing total last with
    | nil => exact Nat.le_of_eq (spaces total last count)
    | joinerLast =>
        change _ ≤ total + count
        cases count with
        | zero => exact Nat.le_refl _
        | succ count =>
            rw [List.replicate_succ, List.singleton_append, widthFrom_joiner, spaces]
            omega
    | joined next rest inductionHypothesis =>
        simpa only [List.cons_append, widthFrom_joiner] using inductionHypothesis total last
    | selected rest inductionHypothesis =>
        simpa only [List.cons_append, widthFrom_selector] using inductionHypothesis _ none
    | other character rest noJoiner noSelector inductionHypothesis =>
        simpa only [List.cons_append, widthFrom_cons _ _ noJoiner noSelector] using
          inductionHypothesis _ _
  exact counted 0 none

theorem setWidth_of_width_le
    {total : Nat}
    {text : List Char}
    (fits : width text ≤ total) :
    setWidth total text = text ++ List.replicate (total - width text) ' ' :=
  if_pos fits

/-- A text that fits is the start of what it is filled up to, which fits as well. -/
theorem setWidth_fits
    {total : Nat}
    {text : List Char}
    (fits : width text ≤ total) :
    text <+: setWidth total text ∧ width (setWidth total text) ≤ total := by
  rw [setWidth_of_width_le fits]
  have wider := width_append_spaces_le text (total - width text)
  exact ⟨List.prefix_append _ _, by omega⟩

/-! ## Cells -/

/-- Whether a text is shown as it is in a column that is wide enough for it.  In a column that may
break its cells, it has to keep its end, and at the right it is of printable characters. -/
structure Column.Keeps (column : Column) (cell : List Char) : Prop where
  /-- The text is a line. -/
  isLine : IsLine cell
  /-- It keeps its end where it may be broken. -/
  keepsEnd : column.breaks = true → KeepsEnd cell
  /-- It can be put at the right. -/
  printable : column.isRight = true → trimEnd cell = cell ∧
    ∀ character ∈ cell, 32 ≤ character.toNat ∧ character.toNat < 127

/-- A text at the right has spaces before it, and takes no more cells than there are. -/
theorem width_spaces_append
    {total : Nat}
    {text : List Char}
    (printable : ∀ character ∈ text, 32 ≤ character.toNat ∧ character.toNat < 127)
    (fits : width text ≤ total) :
    width (List.replicate (total - width text) ' ' ++ text) ≤ total := by
  have short : width text = text.length := by
    rw [width, widthFrom_printable _ _ printable, Nat.zero_add]
  rw [width, widthFrom_printable, List.length_append, List.length_replicate]
  · omega
  · intro character present
    rcases List.mem_append.mp present with space | within
    · rw [List.eq_of_mem_replicate space]
      decide
    · exact printable character within

/-- A cell that is kept is aligned as it is. -/
theorem Column.Keeps.align_fits
    {column : Column}
    {cell : List Char}
    (keeps : column.Keeps cell)
    {limit : Nat}
    (fits : width cell ≤ limit) :
    cell <:+: align limit (if column.isRight then .right else .left) .ellipsis cell ∧
      width (align limit (if column.isRight then .right else .left) .ellipsis cell) ≤ limit := by
  cases isRight : column.isRight with
  | false =>
      rw [if_neg Bool.false_ne_true, align, truncate_of_width_le _ fits]
      obtain ⟨starts, filled⟩ := setWidth_fits fits
      exact ⟨starts.isInfix, filled⟩
  | true =>
      obtain ⟨trimmed, printable⟩ := keeps.printable isRight
      simp only [if_true, align, trimmed, truncate_of_width_le _ fits]
      exact ⟨(List.suffix_append _ _).isInfix, width_spaces_append printable fits⟩

namespace Table

/-- Whether a column of some width is wide enough for a cell that it keeps. -/
structure FitsColumn (column : Column × Nat) (cell : List Char) : Prop where
  /-- The cell is kept. -/
  keeps : column.1.Keeps cell
  /-- There is room for a text. -/
  wide : padding < column.2
  /-- There is room for the cell. -/
  fits : width cell + padding ≤ column.2

/-- A cell takes one line in a column that is wide enough. -/
theorem FitsColumn.exists_cellLines
    {column : Column × Nat}
    {cell : List Char}
    (fitsColumn : FitsColumn column cell) :
    ∃ text, cellLines column.1 column.2 cell = [text] ∧ cell <:+: text := by
  obtain ⟨keeps, wide, fits⟩ := fitsColumn
  have fitsWithin : width cell ≤ column.2 - padding := by omega
  have wrapped := wrap_eq_align (if column.1.isRight then .right else .left) .ellipsis keeps.isLine
    fitsWithin fun breaks => trimBeyond_of_keepsEnd (keeps.keepsEnd breaks) fitsWithin
  obtain ⟨shown, filled⟩ := keeps.align_fits fitsWithin
  refine ⟨_, ?_, shown.trans ((setWidth_fits filled).1.isInfix.trans
    (List.infix_append [' '] _ [' ']))⟩
  rw [cellLines, if_neg (Nat.not_le.mpr wide)]
  simp only [wrapped]
  rfl

/-! ## Rows -/

/-- Whether a line of a table has a cell for each of some texts, in which the text stands as it
is. -/
def HoldsCells (texts : List (List Char)) (line : List Char) : Prop :=
  ∃ cells, line = '│' :: ['│'].intercalate cells ++ ['│'] ∧
    List.Forall₂ (fun text cell => text <:+: cell) texts cells

/-- The signs of a line with cells. -/
def rowSigns : Signs :=
  ⟨'│', '│', '│'⟩

theorem foldl_max_le_iff (values : List Nat) (initial bound : Nat) :
    values.foldl max initial ≤ bound ↔ initial ≤ bound ∧ ∀ value ∈ values, value ≤ bound := by
  induction values generalizing initial with
  | nil => simp
  | cons value rest inductionHypothesis =>
      rw [List.foldl_cons, inductionHypothesis, Nat.max_le, List.forall_mem_cons, and_assoc]

/-- A row of cells that fit is one line on a terminal that is wide enough. -/
theorem exists_rowLines
    {columns : List (Column × Nat)}
    {cells : List (List Char)}
    (fits : List.Forall₂ FitsColumn columns cells) :
    ∃ enough, ∀ limit, enough ≤ limit →
      ∃ line, rowLines limit rowSigns columns cells = [line] ∧ HoldsCells cells line := by
  have shown : ∃ texts, ((columns.zip cells).map fun entry =>
      cellLines entry.1.1 entry.1.2 entry.2) = texts.map (fun text => [text]) ∧
        columns.length = texts.length ∧
          List.Forall₂ (fun text cell => text <:+: cell) cells texts := by
    induction fits with
    | nil => exact ⟨[], rfl, rfl, .nil⟩
    | cons first rest inductionHypothesis =>
        obtain ⟨texts, lines, sameLength, holds⟩ := inductionHypothesis
        obtain ⟨text, line, within⟩ := first.exists_cellLines
        refine ⟨text :: texts, ?_, congrArg Nat.succ sameLength, .cons within holds⟩
        rw [List.zip_cons_cons, List.map_cons, line, lines, List.map_cons]
  obtain ⟨texts, lines, sameLength, holds⟩ := shown
  have height : ((texts.map fun text => [text]).map List.length).foldl max 1 = 1 := by
    refine Nat.le_antisymm ((foldl_max_le_iff _ _ _).mpr ⟨Nat.le_refl 1, ?_⟩) ?_
    · simp
    · exact ((foldl_max_le_iff _ _ _).mp (Nat.le_refl _)).1
  have firsts : ((columns.zip (texts.map fun text => [text])).map fun entry =>
      entry.2[0]?.getD (List.replicate entry.1.2 ' ')) = texts := by
    rw [List.zip_map_right, List.map_map]
    exact List.map_snd_zip (Nat.le_of_eq sameLength.symm)
  refine ⟨width ('│' :: ['│'].intercalate texts ++ ['│']), fun limit enough => ?_⟩
  have joined : joinCells limit rowSigns texts = '│' :: ['│'].intercalate texts ++ ['│'] :=
    if_pos enough
  refine ⟨_, ?_, texts, rfl, holds⟩
  unfold rowLines
  simp only [lines, height]
  rw [List.range_one, List.map_singleton, firsts, joined]

/-! ## Widths of columns -/

/-- A text without the ends of lines is a single part. -/
theorem widest_of_isLine
    {text : List Char}
    (isLine : IsLine text) :
    widest endsLine text = width text := by
  have single : partsBetween endsLine text = [text] := by
    unfold partsBetween
    induction text with
    | nil => rfl
    | cons character rest inductionHypothesis =>
        have ends := (isLine character List.mem_cons_self).2
        have later : IsLine rest := fun other present =>
          isLine other (List.mem_cons_of_mem character present)
        rw [List.foldr_cons, inductionHypothesis later, ends]
        rfl
  rw [widest, single]
  simp

/-- The width of a column in which no cell has to be narrowed. -/
def naturalWidth (cells : List (List Char)) : Nat :=
  max 1 ((cells.map fun cell => width cell + padding).foldl max 0)

theorem le_naturalWidth
    {cells : List (List Char)}
    {cell : List Char}
    (present : cell ∈ cells) :
    width cell + padding ≤ naturalWidth cells := by
  have all := ((foldl_max_le_iff (cells.map fun cell => width cell + padding) 0 _).mp
    (Nat.le_refl _)).2 _ (List.mem_map_of_mem present)
  exact Nat.le_trans all (Nat.le_max_right _ _)

/-- A column has its natural width where the terminal is wide enough for it. -/
theorem columnWidth_eq
    {limit : Nat}
    {cells : List (List Char)}
    (isLine : ∀ cell ∈ cells, IsLine cell)
    (enough : naturalWidth cells ≤ limit) :
    max 1 (columnWidth limit cells) = naturalWidth cells := by
  have positive : limit ≠ 0 := by
    have one : 1 ≤ naturalWidth cells := Nat.le_max_left 1 _
    omega
  have measured : cells.map (cellWidth limit) = cells.map fun cell => width cell + padding := by
    refine List.map_congr_left fun cell present => ?_
    have fits := Nat.le_trans (le_naturalWidth present) enough
    rw [cellWidth, widest_of_isLine (isLine cell present)]
    unfold padding at fits ⊢
    split
    · omega
    · omega
  have within : (cells.map fun cell => width cell + padding).foldl max 0 ≤ limit :=
    Nat.le_trans (Nat.le_max_right _ _) enough
  rw [columnWidth, if_neg positive, measured, Nat.min_eq_right within, naturalWidth]

theorem le_total_of_mem
    {widths : List Nat}
    {width : Nat}
    (present : width ∈ widths) :
    width ≤ total widths := by
  rw [total, ← List.sum_eq_foldl]
  exact List.le_sum_of_mem present

/-- All columns have their natural widths where the terminal is wide enough for all of them. -/
theorem widths_eq
    {limit : Nat}
    {columns : List (Column × List (List Char))}
    (isLine : ∀ column ∈ columns, ∀ cell ∈ column.2, IsLine cell)
    (enough : total (columns.map fun column => naturalWidth column.2) ≤ limit) :
    widths limit columns = columns.map fun column => naturalWidth column.2 := by
  have measured : (columns.map fun column => max 1 (columnWidth limit column.2)) =
      columns.map fun column => naturalWidth column.2 := by
    refine List.map_congr_left fun column present => ?_
    have part : naturalWidth column.2 ≤ total (columns.map fun column => naturalWidth column.2) :=
      le_total_of_mem (List.mem_map_of_mem present)
    exact columnWidth_eq (isLine column present) (Nat.le_trans part enough)
  unfold widths
  dsimp only
  rw [measured, if_pos enough]

/-! ## Tables -/

/-- Whether titles can stand over columns. -/
def IsTitled (columns : List Column) : Prop :=
  ∀ column ∈ columns, IsLine column.title.toList ∧ 0 < width column.title.toList

instance (columns : List Column) : Decidable (IsTitled columns) :=
  List.decidableBAll _ columns

/-- The natural widths of the columns of a table, with their titles. -/
def naturalWidths (columns : List Column) (rows : List (List (List Char))) : List Nat :=
  columns.zipIdx.map fun entry =>
    naturalWidth (columnCells ((columns.map fun column => column.title.toList) :: rows) entry.2)

variable {columns : List Column} {rows : List (List (List Char))}

theorem mem_columnCells
    {row : List (List Char)}
    (present : row ∈ rows)
    {number : Nat}
    (within : number < row.length) :
    row[number] ∈ columnCells rows number :=
  List.mem_map.mpr ⟨row, present, by simp [within]⟩

/-- Every cell of a row that is kept fits in its column. -/
theorem fitsColumn_naturalWidths
    (titled : IsTitled columns)
    {row : List (List Char)}
    (present : row ∈ rows)
    (keeps : List.Forall₂ Column.Keeps columns row) :
    List.Forall₂ FitsColumn (columns.zip (naturalWidths columns rows)) row := by
  obtain ⟨sameLength, kept⟩ := List.forall₂_iff_get.mp keeps
  refine List.forall₂_iff_get.mpr ⟨by simp [naturalWidths, sameLength], ?_⟩
  intro number sized within
  have inColumns : number < columns.length := by omega
  have title : columns[number].title.toList ∈
      columnCells ((columns.map fun column => column.title.toList) :: rows) number := by
    have inTitles : number < (columns.map fun column => column.title.toList).length := by
      simpa using inColumns
    simpa using mem_columnCells (List.mem_cons_self (l := rows)) inTitles
  have visible := (titled columns[number] (List.getElem_mem inColumns)).2
  have fitsTitle := le_naturalWidth title
  have fits := le_naturalWidth (mem_columnCells (List.mem_cons_of_mem
    (columns.map fun column => column.title.toList) present) within)
  simp only [List.get_eq_getElem, List.getElem_zip, naturalWidths, List.getElem_map,
    List.getElem_zipIdx, Nat.zero_add]
  exact
    { keeps := kept number inColumns within
      wide := by simp only; omega
      fits := fits }

theorem isLine_of_keeps
    {row : List (List Char)}
    (keeps : List.Forall₂ Column.Keeps columns row) :
    ∀ cell ∈ row, IsLine cell := by
  induction keeps with
  | nil => simp
  | cons first _ inductionHypothesis =>
      exact List.forall_mem_cons.mpr ⟨first.isLine, inductionHypothesis⟩

theorem isLine_columnCells
    (isLine : ∀ row ∈ rows, ∀ cell ∈ row, IsLine cell)
    (number : Nat) :
    ∀ cell ∈ columnCells rows number, IsLine cell := by
  intro cell present
  obtain ⟨row, among, rfl⟩ := List.mem_map.mp present
  cases found : row[number]? with
  | none => simp [IsLine]
  | some cell => exact isLine row among cell (List.mem_of_getElem? found)

/-- A table has its natural widths on a terminal that is wide enough for all of them. -/
theorem widths_eq_naturalWidths
    (titled : IsTitled columns)
    (keeps : ∀ row ∈ rows, List.Forall₂ Column.Keeps columns row)
    {limit : Nat}
    (enough : total (naturalWidths columns rows) ≤ limit) :
    widths limit (columns.zipIdx.map fun entry =>
      (entry.1, columnCells ((columns.map fun column => column.title.toList) :: rows) entry.2)) =
        naturalWidths columns rows := by
  have isLine : ∀ row ∈ (columns.map fun column => column.title.toList) :: rows,
      ∀ cell ∈ row, IsLine cell := by
    refine List.forall_mem_cons.mpr ⟨?_, fun row present => isLine_of_keeps (keeps row present)⟩
    intro title present
    obtain ⟨column, among, rfl⟩ := List.mem_map.mp present
    exact (titled column among).1
  rw [widths_eq, List.map_map]
  · rfl
  · intro column present
    obtain ⟨entry, -, rfl⟩ := List.mem_map.mp present
    exact isLine_columnCells isLine entry.2
  · rw [List.map_map]
    exact enough

/-- Rows of cells that fit are lines on a terminal that is wide enough. -/
theorem exists_flatMap_rowLines
    {sized : List (Column × Nat)}
    {rows : List (List (List Char))}
    (fits : ∀ row ∈ rows, List.Forall₂ FitsColumn sized row) :
    ∃ enough, ∀ limit, enough ≤ limit →
      List.Forall₂ HoldsCells rows (rows.flatMap (rowLines limit rowSigns sized)) := by
  induction rows with
  | nil => exact ⟨0, fun _ _ => .nil⟩
  | cons row rest inductionHypothesis =>
      obtain ⟨fitsRow, fitsRest⟩ := List.forall_mem_cons.mp fits
      obtain ⟨enoughRow, shownRow⟩ := exists_rowLines fitsRow
      obtain ⟨enoughRest, shownRest⟩ := inductionHypothesis fitsRest
      refine ⟨max enoughRow enoughRest, fun limit enough => ?_⟩
      obtain ⟨line, single, holds⟩ := shownRow limit (Nat.le_trans (Nat.le_max_left _ _) enough)
      rw [List.flatMap_cons, single]
      exact .cons holds (shownRest limit (Nat.le_trans (Nat.le_max_right _ _) enough))

/-- Every row of cells that are kept is one line of the table on a terminal that is wide enough, and
these lines stand together in the order of the rows. -/
theorem exists_lines
    (titled : IsTitled columns)
    (keeps : ∀ row ∈ rows, List.Forall₂ Column.Keeps columns row) :
    ∃ enough, ∀ limit, enough ≤ limit →
      ∃ head shown foot, lines limit columns rows = head ++ shown ++ foot ∧
        List.Forall₂ HoldsCells rows shown := by
  obtain ⟨enoughRows, shown⟩ := exists_flatMap_rowLines fun row present =>
    fitsColumn_naturalWidths titled present (keeps row present)
  refine ⟨max enoughRows (total (naturalWidths columns rows) + (columns.length + 1)),
    fun limit enough => ?_⟩
  have enoughRow := Nat.le_trans (Nat.le_max_left _ _) enough
  have enoughWidths : total (naturalWidths columns rows) ≤ limit - (columns.length + 1) :=
    Nat.le_sub_of_add_le (Nat.le_trans (Nat.le_max_right _ _) enough)
  unfold lines
  dsimp only
  rw [widths_eq_naturalWidths titled keeps enoughWidths]
  exact ⟨_, _, _, rfl, shown limit enoughRow⟩

/-! ## Cells with markup -/

/-- Whether each of some rows is one line of a table, in which each of its cells stands as it is,
and these lines stand together in the order of the rows. -/
def ShowsRows (columns : List Column) (rows : List (List String)) (limit : Nat) : Prop :=
  ∃ head shown foot, markedLines limit columns rows = .ok (head ++ shown ++ foot) ∧
    List.Forall₂ (fun row line => HoldsCells (row.map String.toList) line) rows shown

theorem mapM_eq_ok
    {Item Result : Type}
    {read : Item → Except Markup.Failure Result}
    {value : Item → Result}
    {items : List Item}
    (reads : ∀ item ∈ items, read item = .ok (value item)) :
    items.mapM read = .ok (items.map value) := by
  induction items with
  | nil => rfl
  | cons item rest inductionHypothesis =>
      obtain ⟨first, later⟩ := List.forall_mem_cons.mp reads
      rw [List.mapM_cons, first, inductionHypothesis later]
      rfl

/-- The markup of literal cells leaves them as they are. -/
theorem markedLines_of_isLiteral
    (limit : Nat)
    (columns : List Column)
    {rows : List (List String)}
    (isLiteral : ∀ row ∈ rows, ∀ cell ∈ row, Markup.IsLiteral cell.toList ∧ IsLine cell.toList) :
    markedLines limit columns rows =
      .ok (lines limit columns (rows.map fun row => row.map String.toList)) := by
  have read : (rows.mapM fun row => row.mapM Markup.plain) =
      .ok (rows.map fun row => row.map String.toList) := by
    refine mapM_eq_ok fun row present => mapM_eq_ok fun cell within => ?_
    obtain ⟨literal, isLine⟩ := isLiteral row present cell within
    exact Markup.plain_of_isLiteral literal isLine.isDropped_eq_false
  rw [markedLines, read]
  rfl

/-- Rows of literal cells are shown as they are on a terminal that is wide enough. -/
theorem exists_showsRows
    {columns : List Column}
    {rows : List (List String)}
    (titled : IsTitled columns)
    (keeps : ∀ row ∈ rows, List.Forall₂ Column.Keeps columns (row.map String.toList))
    (isLiteral : ∀ row ∈ rows, ∀ cell ∈ row, Markup.IsLiteral cell.toList ∧ IsLine cell.toList) :
    ∃ enough, ∀ limit, enough ≤ limit → ShowsRows columns rows limit := by
  obtain ⟨enough, shown⟩ := exists_lines titled (List.forall_mem_map.mpr keeps)
  refine ⟨enough, fun limit fits => ?_⟩
  obtain ⟨head, body, foot, lines, holds⟩ := shown limit fits
  refine ⟨head, body, foot, ?_, List.forall₂_map_left_iff.mp holds⟩
  rw [markedLines_of_isLiteral limit columns isLiteral, lines]

end Table
end Terminal
end Snippets
