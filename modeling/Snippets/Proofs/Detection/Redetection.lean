import Snippets.Proofs.Detection.BlockText
import Snippets.Proofs.Detection.Sectioning
import Snippets.Proofs.Text.Cutting

/-!
# Blocks as documents of their own

The code of a block is a text, and a text is a document.  The lines of that document are
those of the block, because no line of a text holds a break.  Searched for blocks in turn, it
is one block as a whole, and if it is the code of a section it has no sections, because a
section of its own would have been one before.
-/

namespace Snippets

/-- The code of a block as a plain document in the language of the block. -/
def Block.document (block : Block) : Document :=
  .ofText block.code block.language .plain

/-- Whether a block runs from one line to another within some lines. -/
structure Block.Runs (lines : List Line) (first last : Nat) (block : Block) : Prop where
  start : block.start = first
  stop : block.stop = last
  ordered : first ≤ last
  within : last < lines.length

namespace Fence

variable {isSupported : String → Bool} {lines : List Line} {block : Block}

theorem runs_between?
    {opening closing : Nat}
    (found : between? isSupported lines opening closing = some block)
    (within : closing < lines.length) :
    block.Runs lines (opening + 1) (closing - 1) ∧ isSupported block.language = true := by
  obtain ⟨tag, apart, supported, rfl⟩ := exists_tag_of_between? found
  refine ⟨⟨by simp, ?_, by omega, by omega⟩, supported⟩
  simp only
  omega

theorem runs_blocks (present : block ∈ blocks isSupported lines) :
    ∃ first last, block.Runs lines first last ∧ isSupported block.language = true := by
  obtain ⟨opening, -, closing, isFence, found⟩ := exists_between?_of_mem_blocks present
  obtain ⟨line, closingLine, -⟩ := (mem_positions_iff lines closing).mp isFence
  exact ⟨_, _, runs_between? found (List.getElem?_eq_some_iff.mp closingLine).1⟩

end Fence

namespace Section

variable {isSupported : String → Bool} {language : String} {lines : List Line}

/-- The lines of an extent have content where the extent has it. -/
theorem hasContent_linesOf_iff
    {extent : Extent}
    (ordered : extent.1 ≤ extent.2)
    (number : Nat) :
    HasContent (linesOf lines extent) number ↔
      number ≤ extent.2 - extent.1 ∧ HasContent lines (extent.1 + number) := by
  have length : extent.2 + 1 - extent.1 = extent.2 - extent.1 + 1 := by omega
  by_cases within : number ≤ extent.2 - extent.1
  · have inside : number < extent.2 - extent.1 + 1 := by omega
    simp [HasContent, linesOf, length, inside, within]
  · have outside : ¬number < extent.2 - extent.1 + 1 := by omega
    simp [HasContent, linesOf, length, outside, within]

/-- The lines of a section are a single section. -/
theorem extents_linesOf
    {extent : Extent}
    (present : extent ∈ extents lines) :
    extents (linesOf lines extent) = [(0, extent.2 - extent.1)] := by
  have sectioning := isSectioning_extents lines
  have ordered := (sectioning.bounds extent present).1
  have ends := sectioning.ends extent present
  have content : ∀ number, HasContent (linesOf lines extent) number ↔
      number ≤ extent.2 - extent.1 ∧ HasContent lines (extent.1 + number) :=
    hasContent_linesOf_iff ordered
  have whole : IsSectioning (linesOf lines extent) [(0, extent.2 - extent.1)] := by
    apply IsSectioning.of_pairwise
    · exact List.forall_mem_singleton.mpr (Nat.zero_le _)
    · have last : extent.1 + (extent.2 - extent.1) = extent.2 := by omega
      refine List.forall_mem_singleton.mpr ⟨(content 0).mpr ⟨Nat.zero_le _, ends.1⟩, ?_⟩
      exact (content _).mpr ⟨Nat.le_refl _, last.symm ▸ ends.2⟩
    · intro number hasContent
      exact ⟨_, List.mem_singleton_self _, Nat.zero_le _, ((content number).mp hasContent).1⟩
    · intro other same number covered coveredNext
      rw [List.mem_singleton.mp same] at covered coveredNext
      unfold Covers at covered coveredNext
      simp only at covered coveredNext
      rw [content, content]
      refine (sectioning.tight extent present (extent.1 + number) ⟨by omega, by omega⟩
        ⟨by omega, by omega⟩).imp ?_ ?_
      · exact fun former => ⟨covered.2, former⟩
      · exact fun latter => ⟨coveredNext.2, latter⟩
    · exact List.pairwise_singleton _ _
  exact (whole.unique (isSectioning_extents _))

/-- A text in a language that can be run is one block as a whole. -/
theorem blocks_eq_cons (supported : isSupported language = true) :
    blocks isSupported language lines =
      wholeFile language lines ::
        (if (extents lines).length < 2 then [] else (extents lines).map (block language lines)) := by
  rw [blocks, if_pos supported]

theorem supported_of_mem_blocks
    {found : Block}
    (present : found ∈ blocks isSupported language lines) :
    isSupported language = true ∧ found.language = language := by
  unfold blocks at present
  split at present
  · rename_i supported
    refine ⟨supported, ?_⟩
    rcases List.mem_cons.mp present with whole | among
    · rw [whole, wholeFile]
    · split at among
      · cases among
      · obtain ⟨extent, -, rfl⟩ := List.mem_map.mp among
        rfl
  · cases present

/-- Every block but the first is that of a section. -/
theorem exists_extent_of_mem_tail
    {found : Block}
    (present : found ∈ (blocks isSupported language lines).tail) :
    ∃ extent ∈ extents lines, found = block language lines extent := by
  unfold blocks at present
  split at present
  · rw [List.tail_cons] at present
    split at present
    · cases present
    · obtain ⟨extent, among, same⟩ := List.mem_map.mp present
      exact ⟨extent, among, same.symm⟩
  · cases present

theorem runs_block
    {extent : Extent}
    (present : extent ∈ extents lines) :
    (block language lines extent).Runs lines extent.1 extent.2 :=
  have bounds := (isSectioning_extents lines).bounds extent present
  ⟨rfl, rfl, bounds.1, bounds.2⟩

theorem runs_wholeFile (nonempty : lines ≠ []) :
    (wholeFile language lines).Runs lines 0 (lines.length - 1) := by
  have positive := List.length_pos_iff.mpr nonempty
  refine ⟨rfl, ?_, Nat.zero_le _, by omega⟩
  simp only [wholeFile]
  omega

theorem runs_blocks
    {found : Block}
    (nonempty : lines ≠ [])
    (present : found ∈ blocks isSupported language lines) :
    ∃ first last, found.Runs lines first last := by
  obtain ⟨supported, -⟩ := supported_of_mem_blocks present
  rw [blocks_eq_cons supported, List.mem_cons] at present
  rcases present with whole | among
  · exact ⟨_, _, whole ▸ runs_wholeFile nonempty⟩
  · split at among
    · cases among
    · obtain ⟨extent, member, rfl⟩ := List.mem_map.mp among
      exact ⟨_, _, runs_block member⟩

end Section

namespace Document

variable {isSupported : String → Bool} {document : Document} {block : Block}

/-- The blocks of a document are in languages that can be run. -/
theorem supported_of_mem_blocks (present : block ∈ document.blocks isSupported) :
    isSupported block.language = true := by
  unfold blocks at present
  split at present
  · obtain ⟨first, last, runs, supported⟩ := Fence.runs_blocks present
    exact supported
  · obtain ⟨supported, same⟩ := Section.supported_of_mem_blocks present
    exact same ▸ supported

/-- The blocks of a document that has a line run from one of its lines to another, in a
language that can be run. -/
theorem runs_blocks
    (nonempty : document.lines ≠ [])
    (present : block ∈ document.blocks isSupported) :
    ∃ first last, block.Runs document.lines first last ∧ isSupported block.language = true := by
  unfold blocks at present
  split at present
  · exact Fence.runs_blocks present
  · obtain ⟨first, last, runs⟩ := Section.runs_blocks nonempty present
    obtain ⟨supported, same⟩ := Section.supported_of_mem_blocks present
    exact ⟨first, last, runs, same ▸ supported⟩

/-! ## Lines and texts -/

/-- With bounds that count from the start, a slice is what is left of the lines after those
before it have been dropped and those after it cut off. -/
theorem slice_eq_take_drop
    (document : Document)
    (first last : Nat) :
    document.slice first ((last : Int) + 1) =
      (document.lines.drop first).take (last + 1 - first) := by
  have start : clampBound document.lineCount first = min first document.lineCount := by
    simp [clampBound]
  have stop : clampBound document.lineCount ((last : Int) + 1) =
      min (last + 1) document.lineCount := by
    rw [clampBound, if_neg (by omega)]
    rfl
  rw [slice, start, stop]
  rcases Nat.le_total document.lineCount first with beyond | within
  · have nothing : document.lines.drop first = [] := List.drop_eq_nil_of_le beyond
    have nothingLeft : document.lines.drop document.lineCount = [] := List.drop_length
    simp [Nat.min_eq_right beyond, nothing, nothingLeft]
  · rw [Nat.min_eq_left within]
    apply List.take_eq_take_iff.mpr
    rw [List.length_drop, lineCount]
    omega

theorem slice_of_runs
    {first last : Nat}
    (runs : block.Runs document.lines first last) :
    document.slice block.start (block.stop + 1) =
      (document.lines.drop first).take (last + 1 - first) := by
  rw [runs.start, runs.stop, slice_eq_take_drop]

/-- The code of a block is the text of its lines. -/
theorem code_of_runs
    {first last : Nat}
    (runs : block.Runs document.lines first last)
    (present : block ∈ document.blocks isSupported) :
    block.code = textOf (document.slice block.start (block.stop + 1)) := by
  have code := isSpanOf_blocks present
  rw [Block.IsSpanOf, runs.start, runs.stop, spanText_eq_textOf] at code
  rw [code, slice_of_runs runs]

/-- The code of every block is the text between its first line and its last one, also if
there is no line. -/
theorem code_eq_textBetween (present : block ∈ document.blocks isSupported) :
    block.code = document.textBetween block.start block.stop := by
  by_cases nonempty : document.lines = []
  · have code := isSpanOf_blocks present
    rw [Block.IsSpanOf, nonempty] at code
    have nothing : document.slice block.start (block.stop + 1) = [] := by
      simp [slice, nonempty]
    rw [textBetween, nothing, code]
    rfl
  · obtain ⟨first, last, runs, -⟩ := runs_blocks nonempty present
    exact code_of_runs runs present

/-- No line of a text holds a break. -/
theorem isUnbroken_ofText
    {text language : String}
    {kind : DocumentKind}
    {line : Line}
    (present : line ∈ (ofText text language kind).lines) :
    Text.IsUnbroken line.text.toList := by
  obtain ⟨characters, cut, rfl⟩ := List.mem_map.mp present
  rw [String.toList_ofList]
  exact Text.isUnbroken_of_mem_splitLines cut

theorem ofText_lines_ne_nil (text language : String) (kind : DocumentKind) :
    (ofText text language kind).lines ≠ [] := by
  simpa [ofText] using Text.splitLines_ne_nil text.toList

/-- Lines without breaks are the lines of their text. -/
theorem ofText_textOf
    {lines : List Line}
    (nonempty : lines ≠ [])
    (unbroken : ∀ line ∈ lines, Text.IsUnbroken line.text.toList)
    (language : String)
    (kind : DocumentKind) :
    (ofText (textOf lines) language kind).lines = lines := by
  have cut : Text.splitLines (['\n'].intercalate ((lines.map Line.text).map String.toList)) =
      (lines.map Line.text).map String.toList :=
    Text.splitLines_intercalate (by simpa using nonempty) (by simpa using unbroken)
  rw [ofText, textOf, Text.joinLines, String.toList_ofList, cut]
  simp [Function.comp_def]

/-! ## The document of a block -/

theorem lines_document
    {text language : String}
    {kind : DocumentKind}
    {first last : Nat}
    (runs : block.Runs (ofText text language kind).lines first last)
    (present : block ∈ (ofText text language kind).blocks isSupported) :
    block.document.lines = (ofText text language kind).slice block.start (block.stop + 1) := by
  rw [Block.document, code_of_runs runs present, slice_of_runs runs]
  have ordered := runs.ordered
  have within := runs.within
  apply ofText_textOf
  · rw [← List.length_pos_iff, List.length_take, List.length_drop]
    omega
  · intro line among
    exact isUnbroken_ofText (List.mem_of_mem_drop (List.mem_of_mem_take among))

/-- The document of a section's block has one section. -/
theorem extents_document
    {text language : String}
    (later : block ∈ ((ofText text language .plain).blocks isSupported).tail) :
    Section.extents block.document.lines = [(0, (block.stop - block.start).toNat)] := by
  have present := List.mem_of_mem_tail later
  obtain ⟨extent, among, same⟩ := Section.exists_extent_of_mem_tail later
  have runs : block.Runs (ofText text language .plain).lines extent.1 extent.2 :=
    same ▸ Section.runs_block among
  have length : (block.stop - block.start).toNat = extent.2 - extent.1 := by
    rw [runs.start, runs.stop]
    omega
  rw [lines_document runs present, slice_of_runs runs, length]
  exact Section.extents_linesOf among

/-- The code of every block is the text between its first line and its last one.  If the
document is that of a text, the block lies within it, and its code is a document of just these
lines, of which the first block is the whole with the same code.  If the block is that of a
section, there is no other. -/
theorem blocks_document (registry : Registry) :
    (∀ (document : Document) (block : Block),
      block ∈ document.blocks registry.contains →
      block.code = document.textBetween block.start block.stop) ∧
    ∀ (text language : String) (kind : DocumentKind) (block : Block),
      block ∈ (ofText text language kind).blocks registry.contains →
      (0 ≤ block.start ∧ block.start ≤ block.stop ∧
        block.stop < (ofText text language kind).lineCount) ∧
      block.document.lines = (ofText text language kind).slice block.start (block.stop + 1) ∧
      (block.document.lineCount : Int) = block.lineCount ∧
      ∃ whole rest,
        block.document.blocks registry.contains = whole :: rest ∧
        whole.isWholeFile block.document = true ∧
        whole.code = block.code ∧
        (kind = .plain → block ∈ ((ofText text language kind).blocks registry.contains).tail →
          rest = []) := by
  refine ⟨fun document block present => code_eq_textBetween present, ?_⟩
  intro text language kind block present
  obtain ⟨first, last, runs, supported⟩ :=
    runs_blocks (ofText_lines_ne_nil text language kind) present
  have ordered := runs.ordered
  have within := runs.within
  have lines := lines_document runs present
  have cut := slice_of_runs runs
  have count : block.document.lineCount = last + 1 - first := by
    rw [lineCount, lines, cut, List.length_take, List.length_drop]
    omega
  refine ⟨⟨by rw [runs.start]; omega, by rw [runs.start, runs.stop]; omega, ?_⟩, lines, ?_,
    Section.wholeFile block.language block.document.lines, _,
    Section.blocks_eq_cons supported, ?_, ?_, ?_⟩
  · rw [runs.stop, lineCount]
    omega
  · rw [count, Block.lineCount, runs.start, runs.stop]
    omega
  · simp [Block.isWholeFile, Section.wholeFile, Block.document, ofText, lineCount]
  · rw [Section.wholeFile, lines, ← code_of_runs runs present]
  · rintro rfl later
    have single : (Section.extents block.document.lines).length < 2 := by
      rw [extents_document later]
      exact Nat.one_lt_two
    exact if_pos single

/-- A section between other sections, of a text with breaks of all kinds. -/
theorem blocks_document_gap :
    ⟨3, 5, "python", "b\n\nc", 3⟩ ∈
      ((ofText "a\n\n\r\nb\r\rc\n\n\nd\n" "python" .plain).blocks
        Registry.builtin.contains).tail ∧
    ∃ whole,
      (Block.document ⟨3, 5, "python", "b\n\nc", 3⟩).blocks Registry.builtin.contains = [whole] ∧
      whole.code = "b\n\nc" := by
  have later : ⟨3, 5, "python", "b\n\nc", 3⟩ ∈
      ((ofText "a\n\n\r\nb\r\rc\n\n\nd\n" "python" .plain).blocks
        Registry.builtin.contains).tail := by
    decide +kernel
  obtain ⟨-, -, -, whole, rest, found, -, code, single⟩ :=
    (blocks_document Registry.builtin).2 _ _ _ _ (List.mem_of_mem_tail later)
  exact ⟨later, whole, single rfl later ▸ found, code⟩

end Document
end Snippets
