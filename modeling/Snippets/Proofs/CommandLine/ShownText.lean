import Snippets.CommandLine.Execution
import Snippets.Proofs.CommandLine.Selection
import Snippets.Proofs.Detection.Titles
import Snippets.Proofs.Number.Numerals
import Snippets.Proofs.Terminal.TableCells

/-!
# Texts that commands show

Every message and every cell of a table is markup.  The main statement says that a literal text is
shown as it is, in messages and in both tables, on every terminal that is wide enough, and that for
texts without colons it takes a literal text.  Texts from outside are not made literal: the name of
a file that is not there loses what is in its brackets.
-/

namespace Snippets
namespace CommandLine

open Terminal

/-! ## Ordinary characters -/

/-- Whether a character stands for itself wherever it is in a text. -/
def IsOrdinary (character : Char) : Prop :=
  32 ≤ character.toNat ∧ Table.endsLine character = false ∧ character ≠ '[' ∧ character ≠ ':'

instance (character : Char) : Decidable (IsOrdinary character) :=
  inferInstanceAs (Decidable (_ ∧ _))

instance (text : List Char) : Decidable (∀ character ∈ text, IsOrdinary character) :=
  List.decidableBAll _ text

/-- Whether a text is literal and a single line. -/
def IsLiteralLine (text : String) : Prop :=
  Markup.IsLiteral text.toList ∧ IsLine text.toList

instance (text : String) : Decidable (IsLiteralLine text) :=
  inferInstanceAs (Decidable (_ ∧ _))

theorem isLiteralLine_of_isOrdinary
    {text : String}
    (ordinary : ∀ character ∈ text.toList, IsOrdinary character) :
    IsLiteralLine text where
  left := Markup.isLiteral_of_not_mem (fun present => (ordinary _ present).2.2.1 rfl)
    fun present => (ordinary _ present).2.2.2 rfl
  right := fun character present =>
    ⟨(ordinary character present).1, (ordinary character present).2.1⟩

/-- The characters of a number are printable, and none of them is blank. -/
theorem repr_printable
    {number : Int}
    {character : Char}
    (present : character ∈ number.repr.toList) :
    IsOrdinary character ∧ character.toNat < 127 ∧ Text.isBlank character = false := by
  rcases Number.isDigit_or_of_mem_repr present with digit | rfl
  · simp only [Char.isDigit, Bool.and_eq_true, decide_eq_true_eq, ge_iff_le,
      UInt32.le_iff_toNat_le] at digit
    have low : 48 ≤ character.toNat := digit.1
    have high : character.toNat ≤ 57 := digit.2
    refine ⟨⟨by omega, ?_, ?_, ?_⟩, by omega, ?_⟩
    · simp [Table.endsLine]
      omega
    · rintro rfl
      exact absurd high (by decide)
    · rintro rfl
      exact absurd high (by decide)
    · simp [Text.isBlank]
      omega
  · decide

theorem trimEnd_repr (number : Int) : trimEnd number.repr.toList = number.repr.toList := by
  have kept : number.repr.toList.reverse.dropWhile Text.isBlank = number.repr.toList.reverse := by
    rw [List.dropWhile_eq_self_iff]
    intro nonempty blank
    have visible := (repr_printable (List.mem_reverse.mp (List.getElem_mem nonempty))).2.2
    rw [visible] at blank
    cases blank
  rw [trimEnd, kept, List.reverse_reverse]

/-- The title of a block has ordinary characters only. -/
theorem isOrdinary_of_mem_title
    {block : Block}
    {document : Document} :
    ∀ character ∈ (block.title document).toList, IsOrdinary character := by
  have number (value : Int) : ∀ character ∈ value.repr.toList, IsOrdinary character :=
    fun character present => (repr_printable present).1
  have opening : ∀ character ∈ "Run Block (line".toList, IsOrdinary character := by
    decide
  have closing : IsOrdinary ')' := by decide
  have dash : IsOrdinary '–' := by decide
  have space : IsOrdinary ' ' := by decide
  have plural : IsOrdinary 's' := by decide
  cases whole : block.isWholeFile document with
  | true =>
      rw [Block.title_of_whole whole]
      decide
  | false =>
      by_cases single : block.start = block.stop
      · rw [Block.toList_title_of_single whole single]
        simp only [List.forall_mem_append, List.forall_mem_cons]
        exact ⟨opening, space, number _, closing, nofun⟩
      · rw [Block.toList_title_of_several whole single]
        simp only [List.forall_mem_append, List.forall_mem_cons]
        exact ⟨opening, plural, space, number _, dash, number _, closing, nofun⟩

/-! ## Messages -/

/-- The lines that a terminal of some width shows for a message. -/
def Message.linesWithin (limit : Nat) (message : Message) :
    Except Markup.Failure (List String) := do
  let characters ← Markup.plain message.markup
  return (wrap limit .natural .fold true characters).map String.ofList

/-- The word of a message with its text as it is. -/
def Message.shown (message : Message) : String :=
  message.kind.word ++ " " ++ message.text

theorem Message.lines_eq (message : Message) :
    message.lines = message.linesWithin terminalWidth := rfl

/-- Whether a message takes no more than one line of a terminal of some width. -/
def Message.Fits (limit : Nat) (message : Message) : Prop :=
  width message.shown.toList ≤ limit ∧ message.shown.toList.length ≤ limit

instance (limit : Nat) (message : Message) : Decidable (message.Fits limit) :=
  inferInstanceAs (Decidable (_ ∧ _))

theorem Message.plain_of_isLiteral
    {message : Message}
    (isLiteral : IsLiteralLine message.text) :
    Markup.plain message.markup = .ok message.shown.toList := by
  rw [Message.plain_markup, Markup.plain_of_isLiteral isLiteral.1 isLiteral.2.isDropped_eq_false]
  simp [Except.map, shown]

/-- The terminal wraps a literal message, and changes nothing else about it. -/
theorem Message.linesWithin_eq
    {message : Message}
    (limit : Nat)
    (isLiteral : IsLiteralLine message.text) :
    message.linesWithin limit =
      .ok ((wrap limit .natural .fold true message.shown.toList).map String.ofList) := by
  rw [linesWithin, plain_of_isLiteral isLiteral]
  rfl

theorem Message.wrap_of_fits
    {message : Message}
    {limit : Nat}
    (isLiteral : IsLiteralLine message.text)
    (fits : message.Fits limit) :
    (wrap limit .natural .fold true message.shown.toList).map String.ofList = [message.shown] := by
  have isLine : IsLine message.shown.toList := by
    have before : IsLine (message.kind.word ++ " ").toList := by
      cases message.kind <;> decide
    rw [shown, String.toList_append]
    exact List.forall_mem_append.mpr ⟨before, isLiteral.2⟩
  rw [wrap_of_width_le .fold isLine fits.1 fits.2, List.map_singleton, String.ofList_toList]

/-- A command that says literal messages ends with its exit code. -/
theorem saying_of_isLiteral
    {messages : List Message}
    (isLiteral : ∀ message ∈ messages, IsLiteralLine message.text)
    (code : Int) :
    Report.saying messages code =
      ⟨messages.flatMap fun message =>
        (wrap Message.terminalWidth .natural .fold true message.shown.toList).map String.ofList,
        .exit code⟩ := by
  have lines : messages.mapM Message.lines = .ok (messages.map fun message =>
      (wrap Message.terminalWidth .natural .fold true message.shown.toList).map String.ofList) :=
    Table.mapM_eq_ok fun message present =>
      (Message.lines_eq message).trans
        (Message.linesWithin_eq Message.terminalWidth (isLiteral message present))
  rw [Report.saying, Message.allLines, lines, List.flatMap_def]
  rfl

/-- Literal messages that fit are shown as they are. -/
theorem lines_saying_of_fits
    {messages : List Message}
    (isLiteral : ∀ message ∈ messages, IsLiteralLine message.text)
    (fits : ∀ message ∈ messages, message.Fits Message.terminalWidth)
    (code : Int) :
    (Report.saying messages code).lines = messages.map Message.shown := by
  rw [saying_of_isLiteral isLiteral, List.map_eq_flatMap]
  exact List.flatMap_congr fun message present =>
    Message.wrap_of_fits (isLiteral message present) (fits message present)

/-! ## Tables -/

/-- A text that is a literal line is kept by a column that neither breaks its cells nor puts them at
the right. -/
theorem keeps_of_isLine
    {column : Column}
    {text : String}
    (isLine : IsLine text.toList)
    (noBreaks : column.breaks = false)
    (notRight : column.isRight = false) :
    column.Keeps text.toList where
  isLine := isLine
  keepsEnd := fun breaks => absurd (noBreaks ▸ breaks) Bool.false_ne_true
  printable := fun isRight => absurd (notRight ▸ isRight) Bool.false_ne_true

/-- A number is kept by every column. -/
theorem keeps_repr (column : Column) (number : Int) :
    column.Keeps number.repr.toList where
  isLine := fun _ present => ⟨(repr_printable present).1.1, (repr_printable present).1.2.1⟩
  keepsEnd := fun _ => .inl (trimEnd_repr number)
  printable := fun _ => ⟨trimEnd_repr number, fun _ present =>
    ⟨(repr_printable present).1.1, (repr_printable present).2.1⟩⟩

namespace RunnerRow

/-- Whether a row has literal texts only. -/
structure IsLiteral (row : RunnerRow) : Prop where
  /-- The language is literal. -/
  language : IsLiteralLine row.language
  /-- The command is literal. -/
  command : IsLiteralLine row.runner.command
  /-- The extension is literal. -/
  ext : IsLiteralLine row.runner.ext
  /-- The command, which may be broken, keeps its end. -/
  keepsEnd : KeepsEnd row.runner.command.toList

theorem isLiteralLine_of_mem_cells
    {row : RunnerRow}
    (isLiteral : row.IsLiteral) :
    ∀ cell ∈ row.cells, IsLiteralLine cell := by
  have source : ∀ isChosen : Bool, IsLiteralLine (if isChosen then "config" else "built-in") := by
    intro isChosen
    cases isChosen <;> exact isLiteralLine_of_isOrdinary (by decide)
  simp only [cells, List.forall_mem_cons]
  exact ⟨isLiteral.language, isLiteral.command, isLiteral.ext, source _, nofun⟩

theorem keeps_cells
    {row : RunnerRow}
    (isLiteral : row.IsLiteral) :
    List.Forall₂ Column.Keeps columns (row.cells.map String.toList) := by
  have isLine : ∀ cell ∈ row.cells, IsLine cell.toList := fun cell present =>
    (isLiteralLine_of_mem_cells isLiteral cell present).2
  simp only [cells, List.forall_mem_cons] at isLine
  obtain ⟨language, command, ext, source, -⟩ := isLine
  exact .cons (keeps_of_isLine language rfl rfl)
    (.cons ⟨command, fun _ => isLiteral.keepsEnd, nofun⟩
      (.cons (keeps_of_isLine ext rfl rfl) (.cons (keeps_of_isLine source rfl rfl) .nil)))

end RunnerRow

namespace BlockRow

variable (document : Document) (number : Nat) {block : Block}

/-- The cells of a row with its numbers written out. -/
theorem cells_ofBlock :
    (ofBlock document number block).cells =
      [(number : Int).repr, block.title document, block.language,
        (block.start + 1 : Int).repr ++ "-" ++ (block.stop + 1 : Int).repr,
        (block.anchor + 1 : Int).repr] := by
  rw [cells]
  simp only [ofBlock, Int.toString_eq_repr]
  rfl

theorem isLiteralLine_of_mem_cells
    (isLiteral : IsLiteralLine block.language) :
    ∀ cell ∈ (ofBlock document number block).cells, IsLiteralLine cell := by
  have ordinary (value : Int) : ∀ character ∈ value.repr.toList, IsOrdinary character :=
    fun _ present => (repr_printable present).1
  have written (value : Int) : IsLiteralLine value.repr :=
    isLiteralLine_of_isOrdinary (ordinary value)
  have between (first last : Int) : IsLiteralLine (first.repr ++ "-" ++ last.repr) := by
    refine isLiteralLine_of_isOrdinary ?_
    have dash : ∀ character ∈ "-".toList, IsOrdinary character := by decide
    simp only [String.toList_append, List.forall_mem_append]
    exact ⟨⟨ordinary first, dash⟩, ordinary last⟩
  simp only [cells_ofBlock, List.forall_mem_cons]
  exact ⟨written _, isLiteralLine_of_isOrdinary isOrdinary_of_mem_title, isLiteral, between _ _,
    written _, nofun⟩

theorem keeps_cells
    (isLiteral : IsLiteralLine block.language) :
    List.Forall₂ Column.Keeps columns
      ((ofBlock document number block).cells.map String.toList) := by
  have isLine : ∀ cell ∈ (ofBlock document number block).cells, IsLine cell.toList :=
    fun cell present => (isLiteralLine_of_mem_cells document number isLiteral cell present).2
  simp only [cells_ofBlock, List.forall_mem_cons] at isLine ⊢
  obtain ⟨-, title, language, lines, -⟩ := isLine
  exact .cons (keeps_repr _ _) (.cons (keeps_of_isLine title rfl rfl)
    (.cons (keeps_of_isLine language rfl rfl) (.cons (keeps_of_isLine lines rfl rfl)
      (.cons (keeps_repr _ _) .nil))))

end BlockRow

/-- A table of literal cells is shown on every terminal. -/
theorem ending_tableReport
    (columns : List Column)
    {rows : List (List String)}
    (isLiteral : ∀ row ∈ rows, ∀ cell ∈ row, IsLiteralLine cell) :
    (tableReport columns rows).ending = .exit Report.success := by
  rw [tableReport, Table.markedLines_of_isLiteral _ columns isLiteral]

/-- A literal text is shown as it is: in a message, in the table of the runners and in that of the
blocks of a document, if the terminal is wide enough, and whatever its width it fails nothing.  A
text without colons is shown as it is only if it is literal. -/
theorem shows_literal_texts
    (messages : List Message)
    (code : Int)
    (runners : List RunnerRow)
    (document : Document)
    (blocks : List Block)
    (text : String) :
    ((∀ message ∈ messages, IsLiteralLine message.text) →
      (Report.saying messages code).ending = .exit code ∧
      ((∀ message ∈ messages, message.Fits Message.terminalWidth) →
        (Report.saying messages code).lines = messages.map Message.shown) ∧
      ∀ message ∈ messages, ∀ limit, message.Fits limit →
        message.linesWithin limit = .ok [message.shown]) ∧
    ((∀ row ∈ runners, row.IsLiteral) →
      let rows := runners.map RunnerRow.cells
      (tableReport RunnerRow.columns rows).ending = .exit Report.success ∧
      ∃ enough, ∀ limit, enough ≤ limit → Table.ShowsRows RunnerRow.columns rows limit) ∧
    ((∀ block ∈ blocks, IsLiteralLine block.language) →
      let rows := (BlockRow.ofBlocks document blocks).map BlockRow.cells
      (tableReport BlockRow.columns rows).ending = .exit Report.success ∧
      ∃ enough, ∀ limit, enough ≤ limit → Table.ShowsRows BlockRow.columns rows limit) ∧
    (∀ kind : MessageKind, Markup.plain (Message.mk kind text).markup =
      (Markup.plain text).map fun shown => kind.word.toList ++ ' ' :: shown) ∧
    (':' ∉ text.toList → IsLine text.toList →
      (Markup.plain text = .ok text.toList ↔ Markup.IsLiteral text.toList)) := by
  refine ⟨fun isLiteral => ⟨?_, ?_, ?_⟩, fun isLiteral => ?_, fun isLiteral => ?_,
    fun kind => Message.plain_markup ⟨kind, text⟩, fun noColon isLine => ?_⟩
  · rw [saying_of_isLiteral isLiteral]
  · exact fun fits => lines_saying_of_fits isLiteral fits code
  · intro message present limit fits
    rw [Message.linesWithin_eq limit (isLiteral message present),
      Message.wrap_of_fits (isLiteral message present) fits]
  · intro rows
    have literalCells : ∀ cells ∈ rows, ∀ cell ∈ cells, IsLiteralLine cell :=
      List.forall_mem_map.mpr fun row present =>
        RunnerRow.isLiteralLine_of_mem_cells (isLiteral row present)
    have keeps : ∀ cells ∈ rows,
        List.Forall₂ Column.Keeps RunnerRow.columns (cells.map String.toList) :=
      List.forall_mem_map.mpr fun row present => RunnerRow.keeps_cells (isLiteral row present)
    exact ⟨ending_tableReport _ literalCells,
      Table.exists_showsRows (by decide +kernel) keeps literalCells⟩
  · intro rows
    have language : ∀ entry ∈ blocks.zipIdx 1, IsLiteralLine entry.1.language :=
      fun entry present => isLiteral entry.1 (List.fst_mem_of_mem_zipIdx present)
    have literalCells : ∀ cells ∈ rows, ∀ cell ∈ cells, IsLiteralLine cell :=
      List.forall_mem_map.mpr (List.forall_mem_map.mpr fun entry present =>
        BlockRow.isLiteralLine_of_mem_cells document entry.2 (language entry present))
    have keeps : ∀ cells ∈ rows,
        List.Forall₂ Column.Keeps BlockRow.columns (cells.map String.toList) :=
      List.forall_mem_map.mpr (List.forall_mem_map.mpr fun entry present =>
        BlockRow.keeps_cells document entry.2 (language entry present))
    exact ⟨ending_tableReport _ literalCells,
      Table.exists_showsRows (by decide +kernel) keeps literalCells⟩
  · exact ⟨Markup.isLiteral_of_plain noColon,
      fun isLiteral => Markup.plain_of_isLiteral isLiteral isLine.isDropped_eq_false⟩

/-- A message on a file that is not there, with a number in brackets in its name. -/
def digitsMessage : Message :=
  ⟨.error, "File not found: a[0].md"⟩

/-- A row of the table of runners, with a class of characters in its command. -/
def digitsRow : RunnerRow :=
  ⟨"awk", ⟨"awk '/[0-9]/' \x7bfile\x7d", ".awk"⟩, true⟩

/-- A block in a language with a number in brackets. -/
def digitsBlock : Block :=
  ⟨0, 0, "sql[1]", "select 1", 0⟩

/-- The statement on literal texts, for digits in brackets. -/
theorem shows_literal_texts_digits :
    IsLiteralLine digitsMessage.text ∧ digitsMessage.Fits 40 ∧
    digitsMessage.linesWithin 40 = .ok ["Error: File not found: a[0].md"] ∧
    (Report.saying [digitsMessage] Report.failure).lines = ["Error: File not found: a[0].md"] ∧
    digitsRow.IsLiteral ∧
    (∃ enough, ∀ limit, enough ≤ limit →
      Table.ShowsRows RunnerRow.columns [digitsRow.cells] limit) ∧
    IsLiteralLine digitsBlock.language ∧
    (∃ enough, ∀ limit, enough ≤ limit →
      Table.ShowsRows BlockRow.columns
        ((BlockRow.ofBlocks scriptDocument [digitsBlock]).map BlockRow.cells) limit) ∧
    Markup.plain "a[0].md" = .ok "a[0].md".toList := by
  obtain ⟨said, runners, blocks, -, exactly⟩ := shows_literal_texts [digitsMessage]
    Report.failure [digitsRow] scriptDocument [digitsBlock] "a[0].md"
  have isLiteral : IsLiteralLine digitsMessage.text := by decide +kernel
  have narrow : digitsMessage.Fits 40 := by decide +kernel
  have fits : digitsMessage.Fits Message.terminalWidth := by decide +kernel
  have row : digitsRow.IsLiteral :=
    ⟨by decide +kernel, by decide +kernel, by decide +kernel, by decide +kernel⟩
  have language : IsLiteralLine digitsBlock.language := by decide +kernel
  obtain ⟨-, wide, within⟩ := said (by simpa using isLiteral)
  have shown := exactly (by decide +kernel) (by decide +kernel)
  exact ⟨isLiteral, narrow, within digitsMessage (List.mem_singleton_self _) 40 narrow,
    wide (by simpa using fits), row, (runners (by simpa using row)).2, language,
    (blocks (by simpa using language)).2, shown.mpr (by decide +kernel)⟩

/-! ## Names in brackets -/

/-- What is said about a file that is not there, where it can be shown in one line. -/
theorem report_fileMissing_of_plain
    {file : String}
    {shown : List Char}
    (plain : Markup.plain ("File not found: " ++ file) = .ok shown)
    (isLine : IsLine (MessageKind.error.word.toList ++ ' ' :: shown))
    (fits : width (MessageKind.error.word.toList ++ ' ' :: shown) ≤ Message.terminalWidth)
    (short : (MessageKind.error.word.toList ++ ' ' :: shown).length ≤ Message.terminalWidth) :
    (Refusal.fileMissing file).report =
      ⟨[String.ofList (MessageKind.error.word.toList ++ ' ' :: shown)], .exit Report.failure⟩ := by
  have lines : (Message.mk .error ("File not found: " ++ file)).lines =
      .ok [String.ofList (MessageKind.error.word.toList ++ ' ' :: shown)] := by
    rw [Message.lines, Message.plain_markup, plain]
    exact congrArg (fun lines => Except.ok (lines.map String.ofList))
      (wrap_of_width_le .fold isLine fits short)
  change Report.saying [⟨.error, "File not found: " ++ file⟩] Report.failure = _
  rw [Report.saying, Message.allLines, List.mapM_cons, lines]
  rfl

/-- A file that is not there ends a command with a failure if the markup in its name is wrong. -/
theorem report_fileMissing_of_error
    {file : String}
    {failure : Markup.Failure}
    (unshown : Markup.plain ("File not found: " ++ file) = .error failure) :
    (Refusal.fileMissing file).report = ⟨[], .escaped (.markup failure)⟩ := by
  have lines : (Message.mk .error ("File not found: " ++ file)).lines = .error failure := by
    rw [Message.lines, Message.plain_markup, unshown]
    rfl
  change Report.saying [⟨.error, "File not found: " ++ file⟩] Report.failure = _
  rw [Report.saying, Message.allLines, List.mapM_cons, lines]
  rfl

/-- A tag in the name of a file is taken out of the message that the file is not there. -/
theorem plain_bracketed :
    Markup.plain ("File not found: " ++ "a[b].md") = .ok "File not found: a.md".toList := by
  have parts : Markup.parts ("File not found: " ++ "a[b].md").toList =
      [.text "File not found: a".toList, .tag "b".toList, .text ".md".toList] := by
    decide
  have starts : Markup.apply [] "b".toList = .ok [⟨"bold", none⟩] := by decide
  have opened : Markup.opened? (.tag "b".toList) = some ⟨"bold", none⟩ := by
    rw [Markup.opened?, starts]
    rfl
  have before : replaceEmoji (Markup.unescape "File not found: a".toList) =
      "File not found: a".toList := by
    decide
  have after : replaceEmoji (Markup.unescape ".md".toList) = ".md".toList := by decide
  have rendered : Markup.render [] [.text "File not found: a".toList, .tag "b".toList,
      .text ".md".toList] = .ok ("File not found: a".toList ++ (".md".toList ++ [])) := by
    have later : Markup.render [⟨"bold", none⟩] [.text ".md".toList] =
        .ok (".md".toList ++ []) := by
      rw [Markup.render_text, after]
      rfl
    rw [Markup.render_text, Markup.render_tag, starts, before]
    simp only [Except.bind, later, Except.map]
  have readable : (List.filterMap Markup.opened? [.text "File not found: a".toList,
      .tag "b".toList, .text ".md".toList]).all Markup.Opened.isReadable = true := by
    simp only [List.filterMap_cons, opened]
    rfl
  have sent : ("File not found: a".toList ++ (".md".toList ++ [])).filter
      (fun character => !Markup.isDropped character) = "File not found: a.md".toList := by
    decide
  rw [Markup.plain_eq, parts, rendered, readable]
  simp only [Except.bind, if_true, sent]

/-- The end of a style in the name of a file cannot be shown. -/
theorem plain_closing : Markup.plain ("File not found: " ++ "[/b]") = .error .wrongTag := by
  have parts : Markup.parts ("File not found: " ++ "[/b]").toList =
      [.text "File not found: ".toList, .tag "/b".toList] := by
    decide
  exact Markup.plain_of_wrong parts (by decide)

/-- The name of a file that is not there is not shown as it is if it has a tag in brackets, and ends
the command with an unexpected failure if this tag ends a style. -/
theorem not_shows_text_bracketed :
    listBlocks scriptEnvironment ⟨"a[b].md", none, none, none⟩ =
      ⟨["Error: File not found: a.md"], .exit Report.failure⟩ ∧
    (∀ line ∈ (listBlocks scriptEnvironment ⟨"a[b].md", none, none, none⟩).lines,
      ¬"a[b].md".toList <:+: line.toList) ∧
    (Refusal.fileMissing "[/b]").report = ⟨[], .escaped (.markup .wrongTag)⟩ := by
  have nothing : scriptEnvironment.tree.node? ["a[b].md"] = none := rfl
  have located : filePath scriptEnvironment "a[b].md" = .error (.fileMissing "a[b].md") :=
    filePath_root (by decide) (by decide) rfl nothing rfl
  have refused : openSubject scriptEnvironment ⟨"a[b].md", none, none, none⟩ =
      .error (.fileMissing "a[b].md") := by
    simp only [openSubject, loadConfig_script, loadDocument, located]
    rfl
  have said : listBlocks scriptEnvironment ⟨"a[b].md", none, none, none⟩ =
      ⟨["Error: File not found: a.md"], .exit Report.failure⟩ := by
    have line : String.ofList (MessageKind.error.word.toList ++
        ' ' :: "File not found: a.md".toList) = "Error: File not found: a.md" := by
      decide +kernel
    have reported := report_fileMissing_of_plain plain_bracketed (by decide +kernel)
      (by decide +kernel) (by decide +kernel)
    rw [line] at reported
    simp only [listBlocks, refused, reported]
  refine ⟨said, ?_, ?_⟩
  · rw [said]
    decide +kernel
  · exact report_fileMissing_of_error plain_closing

end CommandLine
end Snippets
