import Snippets.Proofs.Detection.Redetection

/-!
# The block at a line

Whoever points at a line of a document gets the first block that contains it.  Between fences the
order has no part in this, because a fenced block ends before the next one is opened: the main
statement says that every line is in one block at most, from an opening fence up to but without
its closing fence, and in none elsewhere.  In a plain text the first block contains all lines, so no
other is ever found.
-/

namespace Snippets

/-! ## Lists of blocks -/

namespace Block

variable {blocks : List Block} {line : Int} {block : Block}

theorem contains_iff : block.contains line = true ↔ block.anchor ≤ line ∧ line ≤ block.stop :=
  decide_eq_true_iff

theorem atLine?_cons (first : Block) (rest : List Block) :
    atLine? (first :: rest) line =
      if first.contains line then some first else atLine? rest line := by
  rw [atLine?, List.find?_cons]
  cases first.contains line <;> rfl

theorem atLine?_eq_none_iff :
    atLine? blocks line = none ↔ ∀ block ∈ blocks, block.contains line = false := by
  simp [atLine?]

/-- If a line is in one block at most, the block that is found is the one that contains it. -/
theorem atLine?_eq_some_iff
    (single : blocks.countP (·.contains line) ≤ 1) :
    atLine? blocks line = some block ↔ block ∈ blocks ∧ block.contains line = true := by
  induction blocks with
  | nil => simp [atLine?]
  | cons first rest inductionHypothesis =>
      rw [List.countP_cons] at single
      rw [atLine?_cons, List.mem_cons]
      cases contains : first.contains line with
      | true =>
          have noOther : rest.countP (·.contains line) = 0 := by
            rw [contains, if_pos rfl] at single
            omega
          have notLater (later : block ∈ rest) : ¬block.contains line = true :=
            List.countP_eq_zero.mp noOther block later
          rw [if_pos rfl, Option.some.injEq, eq_comm]
          constructor
          · rintro rfl
            exact ⟨.inl rfl, contains⟩
          · rintro ⟨same | later, within⟩
            · exact same
            · exact absurd within (notLater later)
      | false =>
          have notFirst (within : block.contains line = true) : block ≠ first := by
            rintro rfl
            exact absurd within (contains ▸ Bool.false_ne_true)
          rw [contains] at single
          rw [if_neg Bool.false_ne_true, inductionHypothesis single]
          exact and_congr_left fun within => (or_iff_right (notFirst within)).symm

/-- If a line is in one block at most, the order of the blocks has no part in which is found. -/
theorem atLine?_of_perm
    {rearranged : List Block}
    (single : blocks.countP (·.contains line) ≤ 1)
    (perm : rearranged.Perm blocks) :
    atLine? rearranged line = atLine? blocks line := by
  have singleToo : rearranged.countP (·.contains line) ≤ 1 := perm.countP_eq _ ▸ single
  ext block
  rw [atLine?_eq_some_iff singleToo, atLine?_eq_some_iff single, perm.mem_iff]

/-- If every block ends before the next ones are opened, a line is in one block at most. -/
theorem countP_contains_le_one
    (apart : blocks.Pairwise fun former latter => former.stop < latter.anchor) :
    blocks.countP (·.contains line) ≤ 1 := by
  induction blocks with
  | nil => simp
  | cons first rest inductionHypothesis =>
      obtain ⟨before, later⟩ := List.pairwise_cons.mp apart
      rw [List.countP_cons]
      cases contains : first.contains line with
      | true =>
          have noOther : rest.countP (·.contains line) = 0 := by
            refine List.countP_eq_zero.mpr fun other present within => ?_
            have opened := (contains_iff.mp within).1
            have ended := (contains_iff.mp contains).2
            have between := before other present
            omega
          rw [noOther, if_pos rfl]
      | false => simpa using inductionHypothesis later

end Block

/-! ## Fenced blocks -/

namespace Fence

variable {isSupported : String → Bool} {lines : List Line} {block : Block}

/-- A block between two fences contains the first of them and the lines up to the second one. -/
theorem contains_iff_of_between?
    {opening closing : Nat}
    (found : between? isSupported lines opening closing = some block)
    (line : Int) :
    block.contains line = true ↔ opening ≤ line ∧ line ≤ (closing : Int) - 1 := by
  obtain ⟨tag, -, -, rfl⟩ := exists_tag_of_between? found
  exact Block.contains_iff

/-- Of two fences the later one has the greater number. -/
theorem lt_of_getElem?_positions
    {former latter first second : Nat}
    (lt : former < latter)
    (isFirst : (positions lines)[former]? = some first)
    (isSecond : (positions lines)[latter]? = some second) :
    first < second := by
  obtain ⟨bound, rfl⟩ := List.getElem?_eq_some_iff.mp isFirst
  obtain ⟨boundToo, rfl⟩ := List.getElem?_eq_some_iff.mp isSecond
  exact List.pairwise_iff_getElem.mp (positionsFrom_ascending 0 lines) _ _ bound boundToo lt

/-- A block ends before the closing fence, and the next block is opened after it. -/
theorem blocks_pairwise (isSupported : String → Bool) (lines : List Line) :
    (blocks isSupported lines).Pairwise fun former latter => former.stop < latter.anchor := by
  rw [blocks_eq_filterMap_pair?, List.pairwise_filterMap]
  refine List.pairwise_lt_range.imp ?_
  intro former latter lt first isFirst second isSecond
  obtain ⟨opening, closing, firstPair⟩ := pair?_eq_some_iff.mp isFirst
  obtain ⟨nextOpening, nextClosing, secondPair⟩ := pair?_eq_some_iff.mp isSecond
  have between : closing < nextOpening :=
    lt_of_getElem?_positions (by omega) firstPair.closes secondPair.opens
  obtain ⟨_, -, -, rfl⟩ := exists_tag_of_between? firstPair.found
  obtain ⟨_, -, -, rfl⟩ := exists_tag_of_between? secondPair.found
  simp only
  omega

/-- No block contains a closing fence. -/
theorem not_contains_closing
    {number closing : Nat}
    (isClosing : (positions lines)[2 * number + 1]? = some closing)
    (present : block ∈ blocks isSupported lines) :
    block.contains closing = false := by
  obtain ⟨other, opening, ownClosing, isPair⟩ := exists_isPair_of_mem_blocks present
  rw [Bool.eq_false_iff, ne_eq, contains_iff_of_between? isPair.found]
  rintro ⟨after, before⟩
  -- The fence would have to come after the opening fence and before the closing one.
  rcases Nat.lt_trichotomy other number with earlier | same | later
  · have := lt_of_getElem?_positions (by omega) isPair.closes isClosing
    omega
  · subst same
    have : ownClosing = closing := Option.some.inj (isPair.closes.symm.trans isClosing)
    omega
  · have := lt_of_getElem?_positions (by omega) isClosing isPair.opens
    omega

end Fence

/-! ## Plain texts -/

namespace Section

variable {language : String} {lines : List Line}

theorem contains_wholeFile_iff {line : Int} :
    (wholeFile language lines).contains line = true ↔ 0 ≤ line ∧ line < lines.length := by
  rw [Block.contains_iff, wholeFile]
  exact and_congr_right fun _ => Int.le_sub_one_iff

/-- The block of a section contains no line that the whole text does not have. -/
theorem contains_wholeFile_of_block
    {extent : Extent}
    (present : extent ∈ extents lines)
    {line : Int}
    (contains : (block language lines extent).contains line = true) :
    (wholeFile language lines).contains line = true := by
  have bounds := (isSectioning_extents lines).bounds extent present
  rw [Block.contains_iff, block] at contains
  rw [contains_wholeFile_iff]
  simp only at contains
  omega

/-- Among several sections none goes from the first line to the last one. -/
theorem ne_whole_of_mem_extents
    (several : 2 ≤ (extents lines).length)
    {extent : Extent}
    (present : extent ∈ extents lines) :
    ¬(extent.1 = 0 ∧ extent.2 + 1 = lines.length) := by
  rintro ⟨start, stop⟩
  have sectioning := isSectioning_extents lines
  have all : ∀ other ∈ extents lines, other = extent := by
    intro other among
    have bounds := sectioning.bounds other among
    have own : Covers other other.1 := ⟨Nat.le_refl _, bounds.1⟩
    exact eq_of_covers sectioning.pairwise among present own ⟨by omega, by omega⟩
  have apart := List.pairwise_iff_getElem.mp sectioning.pairwise 0 1 (by omega) (by omega)
    Nat.zero_lt_one
  rw [all _ (List.getElem_mem _), all _ (List.getElem_mem _)] at apart
  exact Std.Irrefl.irrefl extent apart

/-- Sections give blocks of their own only if there are several, and none of these blocks is the
whole text. -/
theorem not_whole_of_mem_tail
    {isSupported : String → Bool}
    {found : Block}
    (present : found ∈ (blocks isSupported language lines).tail) :
    ¬(found.start = 0 ∧ found.stop = (lines.length : Int) - 1) := by
  have several : 2 ≤ (extents lines).length := by
    by_contra few
    unfold blocks at present
    simp only [if_pos (Nat.lt_of_not_le few)] at present
    split at present <;> cases present
  obtain ⟨extent, among, rfl⟩ := exists_extent_of_mem_tail present
  have notWhole := ne_whole_of_mem_extents several among
  rintro ⟨start, stop⟩
  simp only [block] at start stop
  omega

/-- In a text in a language that can be run, the block at each of its lines is the whole text. -/
theorem atLine?_blocks
    {isSupported : String → Bool}
    (supported : isSupported language = true)
    (line : Int) :
    Block.atLine? (blocks isSupported language lines) line =
      if 0 ≤ line ∧ line < lines.length then some (wholeFile language lines) else none := by
  rw [blocks_eq_cons supported, Block.atLine?_cons]
  by_cases within : 0 ≤ line ∧ line < lines.length
  · rw [if_pos (contains_wholeFile_iff.mpr within), if_pos within]
  · rw [if_neg fun contains => within (contains_wholeFile_iff.mp contains), if_neg within,
      Block.atLine?_eq_none_iff]
    intro found present
    have later : found ∈ (blocks isSupported language lines).tail := by
      rwa [blocks_eq_cons supported]
    obtain ⟨extent, among, rfl⟩ := exists_extent_of_mem_tail later
    exact Bool.eq_false_iff.mpr fun contains =>
      within (contains_wholeFile_iff.mp (contains_wholeFile_of_block among contains))

end Section

/-! ## Documents -/

namespace Document

/-- Every line of a tagged document is in one block at most, so the order of the blocks has no part
in which is found.  The block between two fences is found at the opening fence and at the lines up
to the closing one, and nowhere else; no block is found at a closing fence or at a line outside of
all blocks.  At each line of a plain document in a supported language, the first block is found,
which is the whole document, and at no line the block of a section. -/
theorem atLine?_unambiguous (registry : Registry) :
    (∀ document : Document, document.kind = .tagged →
      (∀ line : Int,
        (document.blocks registry.contains).countP (·.contains line) ≤ 1 ∧
        ∀ rearranged : List Block, rearranged.Perm (document.blocks registry.contains) →
          Block.atLine? rearranged line =
            Block.atLine? (document.blocks registry.contains) line) ∧
      (∀ block ∈ document.blocks registry.contains, ∃ number opening closing : Nat,
        (Fence.positions document.lines)[2 * number]? = some opening ∧
        (Fence.positions document.lines)[2 * number + 1]? = some closing ∧
        Fence.between? registry.contains document.lines opening closing = some block ∧
        ∀ line : Int, Block.atLine? (document.blocks registry.contains) line = some block ↔
          opening ≤ line ∧ line ≤ (closing : Int) - 1) ∧
      (∀ number closing : Nat, (Fence.positions document.lines)[2 * number + 1]? = some closing →
        Block.atLine? (document.blocks registry.contains) closing = none) ∧
      ∀ line : Int,
        (∀ block ∈ document.blocks registry.contains, line < block.anchor ∨ block.stop < line) →
        Block.atLine? (document.blocks registry.contains) line = none) ∧
    ∀ document : Document, document.kind = .plain →
      registry.contains document.language = true →
      ∃ whole sections, document.blocks registry.contains = whole :: sections ∧
        whole.isWholeFile document = true ∧
        (∀ line : Int, Block.atLine? (document.blocks registry.contains) line =
          if 0 ≤ line ∧ line < document.lineCount then some whole else none) ∧
        ∀ block ∈ sections, ∀ line : Int,
          Block.atLine? (document.blocks registry.contains) line ≠ some block := by
  constructor
  · intro document tagged
    have found : document.blocks registry.contains =
        Fence.blocks registry.contains document.lines := by
      rw [blocks, tagged]
    have single (line : Int) : (document.blocks registry.contains).countP (·.contains line) ≤ 1 :=
      Block.countP_contains_le_one (found ▸ Fence.blocks_pairwise registry.contains document.lines)
    refine ⟨fun line => ⟨single line, fun _ => Block.atLine?_of_perm (single line)⟩, ?_, ?_, ?_⟩
    · intro block present
      obtain ⟨number, opening, closing, isPair⟩ :=
        Fence.exists_isPair_of_mem_blocks (found ▸ present)
      refine ⟨number, opening, closing, isPair.opens, isPair.closes, isPair.found, fun line => ?_⟩
      rw [Block.atLine?_eq_some_iff (single line), and_iff_right present,
        Fence.contains_iff_of_between? isPair.found]
    · intro number closing isClosing
      exact Block.atLine?_eq_none_iff.mpr fun block present =>
        Fence.not_contains_closing isClosing (found ▸ present)
    · intro line outside
      refine Block.atLine?_eq_none_iff.mpr fun block present => ?_
      rw [Bool.eq_false_iff, ne_eq, Block.contains_iff]
      have := outside block present
      omega
  · intro document plain supported
    have found : document.blocks registry.contains =
        Section.blocks registry.contains document.language document.lines := by
      rw [blocks, plain]
    have atLine (line : Int) :
        Block.atLine? (Section.blocks registry.contains document.language document.lines) line =
          if 0 ≤ line ∧ line < document.lines.length
          then some (Section.wholeFile document.language document.lines) else none :=
      Section.atLine?_blocks supported line
    rw [found]
    refine ⟨_, _, Section.blocks_eq_cons supported, ?_, atLine, fun block later line same => ?_⟩
    · simp [Block.isWholeFile, Section.wholeFile, plain, lineCount]
    · rw [atLine] at same
      split at same
      · have isWhole := Option.some.inj same
        have inTail : block ∈
            (Section.blocks registry.contains document.language document.lines).tail := by
          rw [Section.blocks_eq_cons supported]
          exact later
        exact Section.not_whole_of_mem_tail inTail (isWhole ▸ ⟨rfl, rfl⟩)
      · cases same

/-- Two blocks of which the second is opened on the line after the closing fence of the first, after
a pair of fences that encloses nothing. -/
def adjacentDocument : Document where
  lines := [⟨"```"⟩, ⟨"```"⟩, ⟨"```py"⟩, ⟨"a"⟩, ⟨"```"⟩, ⟨"```sh"⟩, ⟨"b"⟩, ⟨"```"⟩]
  language := Language.markdown
  kind := .tagged

/-- A plain document with a section at each end. -/
def sectionedDocument : Document where
  lines := [⟨"a"⟩, ⟨""⟩, ⟨""⟩, ⟨"b"⟩]
  language := "python"
  kind := .plain

/-- The statement on lines, for a closing fence right before an opening one and for a section. -/
theorem atLine?_unambiguous_adjacent :
    adjacentDocument.kind = .tagged ∧
    (Fence.positions adjacentDocument.lines)[3]? = some 4 ∧
    Block.atLine? (adjacentDocument.blocks Registry.builtin.contains) 4 = none ∧
    Block.atLine? (adjacentDocument.blocks Registry.builtin.contains).reverse 5 =
      some ⟨6, 6, "shellscript", "b", 5⟩ ∧
    sectionedDocument.kind = .plain ∧
    Registry.builtin.contains sectionedDocument.language = true ∧
    Block.atLine? (sectionedDocument.blocks Registry.builtin.contains) 3 =
      some ⟨0, 3, "python", "a\n\n\nb", 0⟩ := by
  have closes : (Fence.positions adjacentDocument.lines)[3]? = some 4 := by decide +kernel
  have supported : Registry.builtin.contains sectionedDocument.language = true := by decide +kernel
  obtain ⟨single, -, none, -⟩ := (atLine?_unambiguous Registry.builtin).1 adjacentDocument rfl
  obtain ⟨whole, sections, found, -, atLine, -⟩ :=
    (atLine?_unambiguous Registry.builtin).2 sectionedDocument rfl supported
  refine ⟨rfl, closes, none 1 4 closes, ?_, rfl, supported, ?_⟩
  · rw [(single 5).2 _ (List.reverse_perm _)]
    decide +kernel
  · have isWhole : (sectionedDocument.blocks Registry.builtin.contains).head? =
        some ⟨0, 3, "python", "a\n\n\nb", 0⟩ := by
      decide +kernel
    rw [found, List.head?_cons] at isWhole
    rw [atLine, isWhole]
    rfl

end Document
end Snippets
