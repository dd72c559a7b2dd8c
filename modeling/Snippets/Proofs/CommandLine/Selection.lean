import Snippets.CommandLine.Execution
import Snippets.Proofs.Config.Sources
import Snippets.Proofs.Detection.BlockText
import Snippets.Proofs.Files.Environments
import Snippets.Proofs.Number.Numerals
import Snippets.Proofs.Terminal.PlainMarkup

/-!
# Listing and running agree

The table of blocks counts blocks and lines from one, and a run counts back.  The main
statement says that a run by the number of a row, or by a line that a row covers, selects
the block that the row describes, that it refuses all other numbers and lines without
running anything, and that hiding the table changes no selection.
-/

namespace Snippets
namespace CommandLine

namespace BlockRow

/-- Whether a line, counted from one, lies between the anchor of a row and its last line. -/
def covers (line : Nat) (row : BlockRow) : Bool :=
  decide (row.anchor ≤ line ∧ (line : Int) ≤ row.last)

theorem covers_ofBlock
    (document : Document)
    (number line : Nat)
    (block : Block) :
    covers line (ofBlock document number block) = block.contains ((line : Int) - 1) := by
  have first : block.anchor + 1 ≤ (line : Int) ↔ block.anchor ≤ (line : Int) - 1 := by omega
  have last : (line : Int) ≤ block.stop + 1 ↔ (line : Int) - 1 ≤ block.stop := by omega
  simp only [covers, ofBlock, Block.contains, first, last]

@[simp] theorem length_ofBlocks (document : Document) (blocks : List Block) :
    (ofBlocks document blocks).length = blocks.length := by
  simp [ofBlocks]

/-- The row of a number is that of the block of the number before it, as rows are counted
from one. -/
theorem getElem?_ofBlocks (document : Document) (blocks : List Block) (index : Nat) :
    (ofBlocks document blocks)[index]? = blocks[index]?.map (ofBlock document (index + 1)) := by
  simp only [ofBlocks, List.getElem?_map, List.getElem?_zipIdx, Option.map_map]
  rw [Nat.add_comm]
  rfl

/-- Every row describes the block of its number. -/
theorem mem_ofBlocks_iff
    {document : Document}
    {blocks : List Block}
    {row : BlockRow} :
    row ∈ ofBlocks document blocks ↔
      ∃ block, 1 ≤ row.number ∧ blocks[row.number - 1]? = some block ∧
        row = ofBlock document row.number block := by
  rw [List.mem_iff_getElem?]
  constructor
  · rintro ⟨index, found⟩
    rw [getElem?_ofBlocks, Option.map_eq_some_iff] at found
    obtain ⟨block, present, rfl⟩ := found
    exact ⟨block, Nat.succ_pos index, present, rfl⟩
  · rintro ⟨block, positive, present, same⟩
    refine ⟨row.number - 1, ?_⟩
    rw [getElem?_ofBlocks, present, Option.map_some, Nat.sub_add_cancel positive, ← same]

/-- The first block that contains a line is that of the first row that covers it. -/
theorem find?_ofBlocks
    (document : Document)
    (blocks : List Block)
    (line : Nat) :
    (ofBlocks document blocks).find? (covers line) =
      ((blocks.zipIdx 1).find? fun entry => entry.1.contains ((line : Int) - 1)).map
        fun entry => ofBlock document entry.2 entry.1 := by
  have same : covers line ∘ (fun entry : Block × Nat => ofBlock document entry.2 entry.1) =
      fun entry => entry.1.contains ((line : Int) - 1) := by
    funext entry
    exact covers_ofBlock document entry.2 line entry.1
  rw [ofBlocks, List.find?_map, same]

end BlockRow

/-- Numbering a list does not change which element is found first. -/
theorem find?_zipIdx
    {Element : Type}
    (elements : List Element)
    (test : Element → Bool)
    (offset : Nat) :
    ((elements.zipIdx offset).find? fun entry => test entry.1).map Prod.fst =
      elements.find? test := by
  induction elements generalizing offset with
  | nil => rfl
  | cons element rest inductionHypothesis =>
      rw [List.zipIdx_cons, List.find?_cons, List.find?_cons]
      cases test element with
      | true => rfl
      | false => exact inductionHypothesis (offset + 1)

/-! ## What a run selects -/

/-- A run that names its block in one way selects among the blocks of the opened file. -/
theorem target_eq
    {environment : Environment}
    {subject : Subject}
    {opened : Opened}
    (opens : openSubject environment subject = .ok opened)
    {line index : Option Nat}
    (single : line.isSome ≠ index.isSome)
    (quiet : Bool) :
    target environment ⟨subject, line, index, quiet⟩ =
      (selectBlock opened.blocks line index).map fun block => (opened, block) := by
  simp only [target, if_neg single, opens]
  change (selectBlock opened.blocks line index).bind (fun block => .ok (opened, block)) = _
  cases selectBlock opened.blocks line index <;> rfl

/-- The number of a row selects the block that the row describes. -/
theorem selectBlock_row
    {document : Document}
    {blocks : List Block}
    {row : BlockRow}
    (present : row ∈ BlockRow.ofBlocks document blocks) :
    ∃ block, selectBlock blocks none (some row.number) = .ok block ∧ block ∈ blocks ∧
      row = BlockRow.ofBlock document row.number block := by
  obtain ⟨block, -, found, same⟩ := BlockRow.mem_ofBlocks_iff.mp present
  exact ⟨block, by simp [selectBlock, found], List.mem_of_getElem? found, same⟩

/-- A line selects what the number of the first row that covers it selects. -/
theorem selectBlock_line_of_some
    {document : Document}
    {blocks : List Block}
    {line : Nat}
    {row : BlockRow}
    (first : (BlockRow.ofBlocks document blocks).find? (BlockRow.covers line) = some row) :
    selectBlock blocks (some line) none = selectBlock blocks none (some row.number) := by
  rw [BlockRow.find?_ofBlocks, Option.map_eq_some_iff] at first
  obtain ⟨⟨block, number⟩, found, rfl⟩ := first
  have atLine : Block.atLine? blocks ((line : Int) - 1) = some block := by
    rw [Block.atLine?, ← find?_zipIdx blocks _ 1, found]
    rfl
  obtain ⟨-, numbered⟩ :=
    List.mem_zipIdx_iff_le_and_getElem?_sub.mp (List.mem_of_find?_eq_some found)
  simp only [selectBlock, atLine, BlockRow.ofBlock, numbered]

/-- A line that no row covers selects nothing. -/
theorem selectBlock_line_of_none
    {document : Document}
    {blocks : List Block}
    {line : Nat}
    (uncovered : (BlockRow.ofBlocks document blocks).find? (BlockRow.covers line) = none) :
    selectBlock blocks (some line) none = .error (.noBlockAt line) := by
  rw [BlockRow.find?_ofBlocks, Option.map_eq_none_iff] at uncovered
  have atLine : Block.atLine? blocks ((line : Int) - 1) = none := by
    rw [Block.atLine?, ← find?_zipIdx blocks _ 1, uncovered]
    rfl
  simp [selectBlock, atLine]

/-- A number beyond the rows selects nothing. -/
theorem selectBlock_number_of_lt
    {blocks : List Block}
    {number : Nat}
    (beyond : blocks.length < number) :
    selectBlock blocks none (some number) = .error (.noBlock number blocks.length) := by
  have absent : blocks[number - 1]? = none := List.getElem?_eq_none (by omega)
  simp [selectBlock, absent]

/-! ## Refusals -/

theorem bracket_not_mem_toDigits (number : Nat) : '[' ∉ Nat.toDigits 10 number :=
  Number.not_mem_digitsOf rfl number

theorem report_noBlockAt (line : Nat) :
    ∃ lines, (Refusal.noBlockAt line).report = ⟨lines, .exit Report.failure⟩ := by
  refine saying_of_not_mem .info ?_ Report.failure
  simp [bracket_not_mem_toDigits]

theorem report_noBlock (number count : Nat) :
    ∃ lines, (Refusal.noBlock number count).report = ⟨lines, .exit Report.failure⟩ := by
  refine saying_of_not_mem .error ?_ Report.failure
  simp [bracket_not_mem_toDigits]

theorem runBlock_eq
    {State : Type}
    (clocked : ClockedHost State)
    (environment : Environment)
    (request : RunRequest)
    (state : State) :
    runBlock clocked environment request state =
      match target environment request with
      | .error refusal => (refusal.report, state)
      | .ok (opened, block) =>
          match Message.allLines (if request.quiet then [] else [announcement opened block]) with
          | .error failure => (.escaping (.markup failure), state)
          | .ok lines =>
              let (outcome, after) := perform clocked.host opened.config block state
              let elapsed := clocked.clock after - clocked.clock state
              ((outcomeReport request.quiet elapsed outcome).after lines, after) := by
  unfold runBlock runBlockIn
  cases target environment request with
  | error refusal => rfl
  | ok found =>
      dsimp only
      cases Message.allLines
        (if request.quiet then [] else [announcement found.1 found.2]) <;> rfl

/-- A run that is refused changes nothing. -/
theorem runBlock_of_refused
    {State : Type}
    (clocked : ClockedHost State)
    {environment : Environment}
    {request : RunRequest}
    {refusal : Refusal}
    (refused : target environment request = .error refusal)
    (state : State) :
    runBlock clocked environment request state = (refusal.report, state) := by
  simp [runBlock_eq, refused]

/-! ## Hidden tables -/

/-- A configuration with which blocks are not listed. -/
def hidden (config : Config) : Config :=
  { config with showAffordance := false }

theorem openSubject_of_loads
    {environment : Environment}
    {subject : Subject}
    {config : Config}
    {document : Document}
    (loads : loadConfig environment subject.config = .ok config)
    (reads : loadDocument environment subject = .ok document) :
    openSubject environment subject =
      .ok ⟨config, document, document.blocks config.registry.contains⟩ := by
  rw [openSubject, loads, reads]
  rfl

/-- What is opened is what was loaded, with the blocks that the configuration has runners
for. -/
theorem opened_eq
    {environment : Environment}
    {subject : Subject}
    {opened : Opened}
    (opens : openSubject environment subject = .ok opened) :
    opened.blocks = opened.document.blocks opened.config.registry.contains := by
  unfold openSubject at opens
  cases loads : loadConfig environment subject.config with
  | error refusal =>
      rw [loads] at opens
      cases opens
  | ok config =>
      cases reads : loadDocument environment subject with
      | error refusal =>
          rw [loads, reads] at opens
          cases opens
      | ok document =>
          rw [loads, reads] at opens
          cases opens
          rfl

theorem target_selection
    (environment : Environment)
    (subject : Subject)
    {line index : Option Nat}
    (unclear : line.isSome = index.isSome)
    (quiet : Bool) :
    target environment ⟨subject, line, index, quiet⟩ = .error .selection := by
  simp only [target, if_pos unclear]
  rfl

/-- Hiding the table changes no selection. -/
theorem target_of_hidden
    {environment environment' : Environment}
    {subject subject' : Subject}
    {opened : Opened}
    (opens : openSubject environment subject = .ok opened)
    (loads : loadConfig environment' subject'.config = .ok (hidden opened.config))
    (reads : loadDocument environment' subject' = .ok opened.document)
    (line index : Option Nat)
    (quiet : Bool) :
    (target environment' ⟨subject', line, index, quiet⟩).map Prod.snd =
      (target environment ⟨subject, line, index, quiet⟩).map Prod.snd := by
  by_cases single : line.isSome = index.isSome
  · rw [target_selection environment' subject' single, target_selection environment subject single]
  · have sameBlocks : opened.document.blocks (hidden opened.config).registry.contains =
        opened.blocks := (opened_eq opens).symm
    rw [target_eq opens single, target_eq (openSubject_of_loads loads reads) single, sameBlocks]
    cases selectBlock opened.blocks line index <;> rfl

/-! ## Agreement -/

/-- The rows of the table of an opened file. -/
def Opened.rows (opened : Opened) : List BlockRow :=
  BlockRow.ofBlocks opened.document opened.blocks

/-- A run by the number of a row selects the block that the row describes. -/
theorem target_row
    {environment : Environment}
    {subject : Subject}
    {opened : Opened}
    (opens : openSubject environment subject = .ok opened)
    {row : BlockRow}
    (present : row ∈ opened.rows)
    (quiet : Bool) :
    ∃ block,
      target environment ⟨subject, none, some row.number, quiet⟩ = .ok (opened, block) ∧
      block.language = row.language ∧
      block.code =
        Document.spanText opened.document.lines (row.first - 1) (row.last - 1) := by
  obtain ⟨block, selected, among, same⟩ := selectBlock_row present
  have language : row.language = block.language := congrArg BlockRow.language same
  have first : row.first - 1 = block.start := by
    rw [same, BlockRow.ofBlock, Int.add_sub_cancel]
  have last : row.last - 1 = block.stop := by
    rw [same, BlockRow.ofBlock, Int.add_sub_cancel]
  rw [opened_eq opens] at among
  refine ⟨block, ?_, language.symm, ?_⟩
  · rw [target_eq opens (by simp), selected]
    rfl
  · rw [first, last]
    exact Document.isSpanOf_blocks among

/-- A run by a line is a run by the number of the first row that covers the line. -/
theorem target_line_of_some
    {environment : Environment}
    {subject : Subject}
    {opened : Opened}
    (opens : openSubject environment subject = .ok opened)
    {line : Nat}
    {row : BlockRow}
    (first : opened.rows.find? (BlockRow.covers line) = some row)
    (quiet : Bool) :
    target environment ⟨subject, some line, none, quiet⟩ =
      target environment ⟨subject, none, some row.number, quiet⟩ := by
  rw [target_eq opens (by simp), target_eq opens (by simp), selectBlock_line_of_some first]

/-- A run by a line is refused exactly if no row covers the line. -/
theorem target_line_iff
    {environment : Environment}
    {subject : Subject}
    {opened : Opened}
    (opens : openSubject environment subject = .ok opened)
    (line : Nat)
    (quiet : Bool) :
    target environment ⟨subject, some line, none, quiet⟩ = .error (.noBlockAt line) ↔
      opened.rows.find? (BlockRow.covers line) = none := by
  constructor
  · intro refused
    cases first : opened.rows.find? (BlockRow.covers line) with
    | none => rfl
    | some row =>
        have present := List.mem_of_find?_eq_some first
        obtain ⟨block, selected, -⟩ := target_row opens present quiet
        rw [target_line_of_some opens first, selected] at refused
        cases refused
  · intro uncovered
    rw [target_eq opens (by simp), selectBlock_line_of_none uncovered]
    rfl

/-- When a table of blocks is shown, its rows are numbered from one, and a run by the number
of a row selects a block of its language with the lines of the row as its code.  A run by a
line selects the block of the first row that covers the line, and is refused exactly if
there is no such row.  Runs by lines that no row covers and by numbers beyond the rows end
with the exit code of a failure and change nothing.  Where the same file is opened with a
configuration that only hides the table, the same block is selected. -/
theorem listing_agrees
    {environment : Environment}
    {subject : Subject}
    {opened : Opened}
    (opens : openSubject environment subject = .ok opened)
    (shown : opened.config.showAffordance = true)
    (nonempty : opened.blocks ≠ []) :
    listBlocks environment subject =
      tableReport BlockRow.columns (opened.rows.map BlockRow.cells) ∧
    (∀ index row, opened.rows[index]? = some row → row.number = index + 1) ∧
    (∀ row ∈ opened.rows, ∀ quiet, ∃ block,
      target environment ⟨subject, none, some row.number, quiet⟩ = .ok (opened, block) ∧
      block.language = row.language ∧
      block.code =
        Document.spanText opened.document.lines (row.first - 1) (row.last - 1)) ∧
    (∀ line row, opened.rows.find? (BlockRow.covers line) = some row → ∀ quiet,
      target environment ⟨subject, some line, none, quiet⟩ =
        target environment ⟨subject, none, some row.number, quiet⟩) ∧
    (∀ line quiet,
      target environment ⟨subject, some line, none, quiet⟩ = .error (.noBlockAt line) ↔
        opened.rows.find? (BlockRow.covers line) = none) ∧
    (∀ (State : Type) (clocked : ClockedHost State) (state : State) (line : Nat) (quiet : Bool),
      opened.rows.find? (BlockRow.covers line) = none →
      ∃ lines, runBlock clocked environment ⟨subject, some line, none, quiet⟩ state =
        (⟨lines, .exit Report.failure⟩, state)) ∧
    (∀ (State : Type) (clocked : ClockedHost State) (state : State) (number : Nat) (quiet : Bool),
      opened.rows.length < number →
      ∃ lines, runBlock clocked environment ⟨subject, none, some number, quiet⟩ state =
        (⟨lines, .exit Report.failure⟩, state)) ∧
    (∀ environment' subject',
      loadConfig environment' subject'.config = .ok (hidden opened.config) →
      loadDocument environment' subject' = .ok opened.document →
      ∀ line index quiet,
        (target environment' ⟨subject', line, index, quiet⟩).map Prod.snd =
          (target environment ⟨subject, line, index, quiet⟩).map Prod.snd) := by
  refine ⟨?_, ?_, fun row present quiet => target_row opens present quiet,
    fun line row first quiet => target_line_of_some opens first quiet,
    fun line quiet => target_line_iff opens line quiet, ?_, ?_,
    fun environment' subject' loads reads => target_of_hidden opens loads reads⟩
  · have notEmpty : opened.blocks.isEmpty = false := by simpa using nonempty
    simp only [listBlocks, opens, shown, notEmpty]
    rfl
  · intro index row found
    rw [Opened.rows, BlockRow.getElem?_ofBlocks, Option.map_eq_some_iff] at found
    obtain ⟨block, -, rfl⟩ := found
    rfl
  · intro State clocked state line quiet uncovered
    obtain ⟨lines, reported⟩ := report_noBlockAt line
    have refused := (target_line_iff opens line quiet).mpr uncovered
    exact ⟨lines, by rw [runBlock_of_refused clocked refused, reported]⟩
  · intro State clocked state number quiet beyond
    rw [Opened.rows, BlockRow.length_ofBlocks] at beyond
    obtain ⟨lines, reported⟩ := report_noBlock number opened.blocks.length
    have refused : target environment ⟨subject, none, some number, quiet⟩ =
        .error (.noBlock number opened.blocks.length) := by
      rw [target_eq opens (by simp), selectBlock_number_of_lt beyond]
      rfl
    exact ⟨lines, by rw [runBlock_of_refused clocked refused, reported]⟩

/-! ## A shell script -/

theorem loadConfig_of_load
    {environment : Environment}
    {given : Option String}
    {explicit : Option Path}
    {config : Config}
    (reads : (given.filter (· ≠ "")).map Path.ofText = explicit)
    (loaded : Config.load environment explicit = .ok config) :
    loadConfig environment given = .ok config := by
  subst reads
  unfold loadConfig
  dsimp only
  rw [loaded]
  rfl

theorem loadDocument_of_load
    {environment : Environment}
    {subject : Subject}
    {path : Path}
    {document : Document}
    (located : filePath environment subject.file = .ok path)
    (loaded : DocumentFile.load environment path subject.language subject.kind = .ok document) :
    loadDocument environment subject = .ok document := by
  unfold loadDocument
  rw [located]
  change (DocumentFile.load environment path subject.language subject.kind).mapError _ = _
  rw [loaded]
  rfl

/-- A name alone leads to the file of that name, where the root is the working directory. -/
theorem filePath_root
    {environment : Environment}
    {name : String}
    {found : Option FileNode}
    (isName : FileTree.IsName name)
    (noHome : name.toList.head? ≠ some '~')
    (inRoot : environment.workingDirectory = [])
    (stands : environment.tree.node? [name] = found)
    (noLink : found.all (fun node => !node.isLink) = true) :
    filePath environment name =
      match found with
      | none => .error (.fileMissing name)
      | some node => if node.isFile then .ok ⟨"/", [name]⟩ else .error (.fileDirectory name) := by
  obtain ⟨-, ⟨-, valid⟩, -⟩ := id isName
  have text : (Path.mk "" [name]).text = name := by simp [Path.text]
  have looked := Environment.node?_root isName stands noLink
  simp only [filePath, Path.ofText_of_isName isName, Environment.expandHome_of_head? noHome, text,
    List.contains_iff_mem, valid, if_false, Environment.resolve_root isName inRoot, looked]
  cases found <;> rfl

/-- The shell script, opened with a configuration that is given or without one. -/
def scriptSubject (config : Option String) : Subject :=
  ⟨"a.sh", none, none, config⟩

/-- The document in the shell script. -/
def scriptDocument : Document :=
  ⟨[⟨"ls"⟩, ⟨""⟩, ⟨""⟩, ⟨"pwd"⟩], "shellscript", .plain⟩

/-- The shell script as it is opened. -/
def scriptOpened : Opened :=
  ⟨{}, scriptDocument, scriptDocument.blocks ({} : Config).registry.contains⟩

theorem loadConfig_script : loadConfig scriptEnvironment none = .ok {} := by
  have unnamed : Config.variablePath? scriptEnvironment = none := by decide
  have nothing : scriptEnvironment.node? (Config.localPath scriptEnvironment) = .ok none :=
    Environment.node?_root (by decide) rfl rfl
  have loaded : Config.load scriptEnvironment none = .ok {} := by
    rw [Config.load_of_local unnamed, Config.outcomeAt_of_noFile nothing nofun]
  exact loadConfig_of_load rfl loaded

theorem loadConfig_hiding : loadConfig scriptEnvironment (some "/c.yaml") = .ok (hidden {}) := by
  have given : ((some "/c.yaml").filter (· ≠ "")).map Path.ofText = some ⟨"/", ["c.yaml"]⟩ := by
    decide
  have told : Config.candidate scriptEnvironment (some ⟨"/", ["c.yaml"]⟩) =
      .ok ⟨"/", ["c.yaml"]⟩ := rfl
  have read : Config.ofContent ⟨"/", ["c.yaml"]⟩
      (Text.encodeUtf8 "show_affordance: false".toList) = .ok (hidden {}) := by
    decide +kernel
  have loaded := Config.load_of_file told node?_scriptEnvironment
  exact loadConfig_of_load given (loaded.trans read)

/-- The shell script is read alike wherever it is in the working directory. -/
theorem loadDocument_script
    {environment : Environment}
    (inRoot : environment.workingDirectory = [])
    (stands : environment.tree.node? ["a.sh"] =
      some (.file (Text.encodeUtf8 "ls\n\n\npwd".toList) .file))
    (config : Option String) :
    loadDocument environment (scriptSubject config) = .ok scriptDocument := by
  have read : DocumentFile.readText (Text.encodeUtf8 "ls\n\n\npwd".toList) =
      some "ls\n\n\npwd".toList := by decide +kernel
  have document : Document.ofText (String.ofList "ls\n\n\npwd".toList)
      (DocumentFile.languageOf ⟨"/", ["a.sh"]⟩) (DocumentFile.kindOf ⟨"/", ["a.sh"]⟩) =
      scriptDocument := by decide +kernel
  have located : filePath environment "a.sh" = .ok ⟨"/", ["a.sh"]⟩ :=
    filePath_root (by decide) (by decide) inRoot stands rfl
  have looked := Environment.node?_root (by decide) stands rfl
  have loaded : DocumentFile.load environment ⟨"/", ["a.sh"]⟩ none none =
      .ok scriptDocument := by
    simp only [DocumentFile.load, looked, read, Option.getD_none, document]
  exact loadDocument_of_load located loaded

theorem openSubject_script : openSubject scriptEnvironment (scriptSubject none) = .ok scriptOpened :=
  openSubject_of_loads loadConfig_script (loadDocument_script rfl rfl none)

/-- The statement on agreement, for the shell script. -/
theorem listing_agrees_script :
    openSubject scriptEnvironment (scriptSubject none) = .ok scriptOpened ∧
    scriptOpened.config.showAffordance = true ∧
    scriptOpened.blocks ≠ [] ∧
    listBlocks scriptEnvironment (scriptSubject none) =
      tableReport BlockRow.columns (scriptOpened.rows.map BlockRow.cells) ∧
    ∀ line index quiet,
      (target scriptEnvironment ⟨scriptSubject (some "/c.yaml"), line, index, quiet⟩).map Prod.snd =
        (target scriptEnvironment ⟨scriptSubject none, line, index, quiet⟩).map Prod.snd := by
  have nonempty : scriptOpened.blocks ≠ [] := by decide +kernel
  have agrees := listing_agrees openSubject_script rfl nonempty
  refine ⟨openSubject_script, rfl, nonempty, agrees.1, ?_⟩
  exact agrees.2.2.2.2.2.2.2 scriptEnvironment (scriptSubject (some "/c.yaml")) loadConfig_hiding
    (loadDocument_script rfl rfl _)

end CommandLine
end Snippets
