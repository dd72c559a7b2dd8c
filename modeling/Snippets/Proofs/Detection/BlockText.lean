import Snippets.Proofs.Detection.FencePairs

/-!
# The code of blocks

However a block was found, its code is the text of the document from its first line to its
last one.
-/

namespace Snippets

/-- Whether the code of a block is the text between its first and its last line. -/
def Block.IsSpanOf (lines : List Line) (block : Block) : Prop :=
  block.code = Document.spanText lines block.start block.stop

namespace Fence

variable {isSupported : String → Bool} {lines : List Line} {block : Block}

/-- A block between two fences has a tag that names a supported language, and at least one
line. -/
theorem exists_tag_of_between?
    {opening closing : Nat}
    (found : between? isSupported lines opening closing = some block) :
    ∃ tag,
      opening + 2 ≤ closing ∧
      isSupported (Language.resolve tag) = true ∧
      block =
        { start := opening + 1
          stop := closing - 1
          language := Language.resolve tag
          code := Document.spanText lines (opening + 1) (closing - 1)
          anchor := opening } := by
  rw [between?, Option.bind_eq_bind, Option.bind_eq_some_iff] at found
  obtain ⟨line, -, found⟩ := found
  rw [Option.bind_eq_bind, Option.bind_eq_some_iff] at found
  obtain ⟨tag, -, found⟩ := found
  split at found
  · rename_i suits
    exact ⟨tag, suits.1, suits.2, (Option.some.inj found).symm⟩
  · cases found

/-- Whether a block is that of the pair of fences with a number, and which fences these are. -/
structure IsPair
    (isSupported : String → Bool)
    (lines : List Line)
    (number opening closing : Nat)
    (block : Block) : Prop where
  /-- The opening fence. -/
  opens : (positions lines)[2 * number]? = some opening
  /-- The closing fence. -/
  closes : (positions lines)[2 * number + 1]? = some closing
  /-- The block between the two. -/
  found : between? isSupported lines opening closing = some block

theorem pair?_eq_some_iff {number : Nat} :
    pair? isSupported lines (positions lines) number = some block ↔
      ∃ opening closing, IsPair isSupported lines number opening closing block := by
  simp only [pair?, Option.bind_eq_bind, Option.bind_eq_some_iff]
  constructor
  · rintro ⟨opening, isOpening, closing, isClosing, found⟩
    exact ⟨opening, closing, isOpening, isClosing, found⟩
  · rintro ⟨opening, closing, isPair⟩
    exact ⟨opening, isPair.opens, closing, isPair.closes, isPair.found⟩

/-- Every block is that of a pair of fences. -/
theorem exists_isPair_of_mem_blocks (present : block ∈ blocks isSupported lines) :
    ∃ number opening closing, IsPair isSupported lines number opening closing block := by
  rw [blocks_eq_filterMap_pair?, List.mem_filterMap] at present
  obtain ⟨number, -, found⟩ := present
  exact ⟨number, pair?_eq_some_iff.mp found⟩

theorem isSpanOf_between?
    {opening closing : Nat}
    (found : between? isSupported lines opening closing = some block) :
    block.IsSpanOf lines := by
  obtain ⟨tag, -, -, rfl⟩ := exists_tag_of_between? found
  rfl

/-- A fenced block is one between two fences of the lines. -/
theorem exists_between?_of_mem_blocks (present : block ∈ blocks isSupported lines) :
    ∃ opening ∈ positions lines, ∃ closing ∈ positions lines,
      between? isSupported lines opening closing = some block := by
  obtain ⟨number, opening, closing, isPair⟩ := exists_isPair_of_mem_blocks present
  exact ⟨opening, List.mem_of_getElem? isPair.opens, closing, List.mem_of_getElem? isPair.closes,
    isPair.found⟩

theorem isSpanOf_blocks (present : block ∈ blocks isSupported lines) :
    block.IsSpanOf lines := by
  obtain ⟨opening, -, closing, -, found⟩ := exists_between?_of_mem_blocks present
  exact isSpanOf_between? found

end Fence

namespace Section

theorem isSpanOf_block (language : String) (lines : List Line) (extent : Extent) :
    (block language lines extent).IsSpanOf lines :=
  (Document.spanText_eq_textOf lines extent.1 extent.2).symm

/-- The text from the first line to the last one is the whole text, also if there is no
line. -/
theorem isSpanOf_wholeFile (language : String) (lines : List Line) :
    (wholeFile language lines).IsSpanOf lines := by
  cases lines with
  | nil => rfl
  | cons line rest =>
      have whole := Document.spanText_eq_textOf (line :: rest) 0 rest.length
      rw [List.drop_zero, Nat.sub_zero, ← List.length_cons, List.take_length] at whole
      have last : (((line :: rest).length : Nat) : Int) - 1 = rest.length := by
        rw [List.length_cons]
        omega
      rw [Block.IsSpanOf, wholeFile, last]
      exact whole.symm

theorem isSpanOf_blocks
    {isSupported : String → Bool}
    {language : String}
    {lines : List Line}
    {block : Block}
    (present : block ∈ blocks isSupported language lines) :
    block.IsSpanOf lines := by
  unfold blocks at present
  split at present
  · rcases List.mem_cons.mp present with whole | among
    · exact whole ▸ isSpanOf_wholeFile language lines
    · split at among
      · cases among
      · obtain ⟨extent, -, rfl⟩ := List.mem_map.mp among
        exact isSpanOf_block language lines extent
  · cases present

end Section

namespace Document

/-- The code of every block of a document is the text from its first line to its last
one. -/
theorem isSpanOf_blocks
    {document : Document}
    {isSupported : String → Bool}
    {block : Block}
    (present : block ∈ document.blocks isSupported) :
    block.IsSpanOf document.lines := by
  unfold blocks at present
  split at present
  · exact Fence.isSpanOf_blocks present
  · exact Section.isSpanOf_blocks present

end Document
end Snippets
