import Snippets.Proofs.Detection.Cursor
import Snippets.Proofs.Number.Numerals

/-!
# Titles tell blocks apart

A title names the lines of a block, or says that it is the whole file.  The main statement says
that the first block of a plain document is the only one that is called the whole file, and that
no two blocks of a document have the same title.
-/

namespace Snippets

/-! ## What a title tells -/

namespace Block

variable {document : Document} {first second : Block}

/-- The sign between the lines of a title is no part of a number. -/
theorem dash_not_mem_repr (number : Int) : '–' ∉ number.repr.toList :=
  Number.not_mem_repr rfl (by decide) number

theorem title_of_whole (whole : first.isWholeFile document = true) :
    first.title document = "Run Entire File" := by
  rw [title, if_pos whole]

theorem toList_title_of_single
    (part : first.isWholeFile document = false)
    (single : first.start = first.stop) :
    (first.title document).toList =
      "Run Block (line".toList ++ ' ' :: ((first.start + 1).repr.toList ++ [')']) := by
  rw [title, part, if_neg Bool.false_ne_true, if_pos single]
  simp [Int.toString_eq_repr]

theorem toList_title_of_several
    (part : first.isWholeFile document = false)
    (several : first.start ≠ first.stop) :
    (first.title document).toList =
      "Run Block (line".toList ++ 's' :: ' ' :: ((first.start + 1).repr.toList ++
        '–' :: ((first.stop + 1).repr.toList ++ [')'])) := by
  rw [title, part, if_neg Bool.false_ne_true, if_neg several]
  simp [Int.toString_eq_repr]

/-- Blocks are whole files by their extents alone. -/
theorem isWholeFile_congr
    (start : first.start = second.start)
    (stop : first.stop = second.stop) :
    first.isWholeFile document = second.isWholeFile document := by
  rw [isWholeFile, isWholeFile, start, stop]

theorem extent_of_isWholeFile (whole : first.isWholeFile document = true) :
    first.start = 0 ∧ first.stop = (document.lineCount : Int) - 1 := by
  simp only [isWholeFile, Bool.and_eq_true, beq_iff_eq] at whole
  exact ⟨whole.1.2, whole.2⟩

/-- Blocks that are not the whole file and have the same title have the same extent. -/
theorem extent_eq_of_title_eq
    (firstPart : first.isWholeFile document = false)
    (secondPart : second.isWholeFile document = false)
    (same : first.title document = second.title document) :
    first.start = second.start ∧ first.stop = second.stop := by
  have characters := congrArg String.toList same
  by_cases single : first.start = first.stop
  · rw [toList_title_of_single firstPart single] at characters
    by_cases singleToo : second.start = second.stop
    · rw [toList_title_of_single secondPart singleToo, List.append_cancel_left_eq,
        List.cons_inj_right, List.append_cancel_right_eq, String.toList_inj,
        Number.repr_inj] at characters
      omega
    · rw [toList_title_of_several secondPart singleToo, List.append_cancel_left_eq] at characters
      exact absurd (List.head_eq_of_cons_eq characters) (by decide)
  · rw [toList_title_of_several firstPart single] at characters
    by_cases singleToo : second.start = second.stop
    · rw [toList_title_of_single secondPart singleToo, List.append_cancel_left_eq] at characters
      exact absurd (List.head_eq_of_cons_eq characters) (by decide)
    · have noDash : '–' ∉ (first.stop + 1).repr.toList ++ [')'] := by
        simpa using dash_not_mem_repr (first.stop + 1)
      rw [toList_title_of_several secondPart singleToo, List.append_cancel_left_eq,
        List.cons_inj_right, List.cons_inj_right,
        List.append_cons_inj_of_notMem (dash_not_mem_repr _) noDash,
        List.append_cancel_right_eq, String.toList_inj, String.toList_inj, Number.repr_inj,
        Number.repr_inj] at characters
      omega

/-- The title of a block that is not the whole file starts with other words. -/
theorem title_ne_of_part
    (whole : first.isWholeFile document = true)
    (part : second.isWholeFile document = false) :
    first.title document ≠ second.title document := by
  intro same
  have fifth := congrArg (fun title : String => title.toList[4]?) same
  rw [title_of_whole whole] at fifth
  by_cases single : second.start = second.stop
  · simp [toList_title_of_single part single] at fifth
  · simp [toList_title_of_several part single] at fifth

/-- Two blocks have the same title exactly if they have the same extent. -/
theorem title_eq_title_iff :
    first.title document = second.title document ↔
      first.start = second.start ∧ first.stop = second.stop := by
  constructor
  · intro same
    cases firstWhole : first.isWholeFile document with
    | true =>
        cases secondWhole : second.isWholeFile document with
        | true =>
            obtain ⟨firstStart, firstStop⟩ := extent_of_isWholeFile firstWhole
            obtain ⟨secondStart, secondStop⟩ := extent_of_isWholeFile secondWhole
            exact ⟨firstStart.trans secondStart.symm, firstStop.trans secondStop.symm⟩
        | false => exact absurd same (title_ne_of_part firstWhole secondWhole)
    | false =>
        cases secondWhole : second.isWholeFile document with
        | true => exact absurd same.symm (title_ne_of_part secondWhole firstWhole)
        | false => exact extent_eq_of_title_eq firstWhole secondWhole same
  · rintro ⟨start, stop⟩
    rw [title, title, isWholeFile_congr start stop, start, stop]

end Block

/-! ## Extents of blocks -/

/-- A fenced block ends where no other one does. -/
theorem Fence.stop_pairwise_ne (isSupported : String → Bool) (lines : List Line) :
    (blocks isSupported lines).Pairwise fun former latter => former.stop ≠ latter.stop := by
  refine (blocks_pairwise isSupported lines).imp_of_mem fun _ present before => ?_
  obtain ⟨_, opening, _, isPair⟩ := exists_isPair_of_mem_blocks present
  obtain ⟨_, room, -, rfl⟩ := exists_tag_of_between? isPair.found
  simp only at before ⊢
  omega

/-- Neither the whole of a plain text nor any of its sections has the extent of another one. -/
theorem Section.extent_pairwise_ne
    (isSupported : String → Bool)
    (language : String)
    (lines : List Line) :
    (blocks isSupported language lines).Pairwise fun former latter =>
      ¬(former.start = latter.start ∧ former.stop = latter.stop) := by
  cases supported : isSupported language with
  | false => simp [blocks, supported]
  | true =>
      have tail := @not_whole_of_mem_tail language lines isSupported
      rw [blocks_eq_cons supported] at tail ⊢
      refine List.pairwise_cons.mpr ⟨fun block later same => ?_, ?_⟩
      · exact tail later ⟨same.1.symm, same.2.symm⟩
      · split
        · exact .nil
        · refine List.pairwise_map.mpr ((isSectioning_extents lines).pairwise.imp ?_)
          intro former latter precedes same
          simp only [block, Int.natCast_inj] at same
          unfold Precedes at precedes
          omega

namespace Document

/-- No two blocks of a document have the same extent. -/
theorem extent_pairwise_ne (document : Document) (isSupported : String → Bool) :
    (document.blocks isSupported).Pairwise fun former latter =>
      ¬(former.start = latter.start ∧ former.stop = latter.stop) := by
  unfold blocks
  split
  · exact (Fence.stop_pairwise_ne isSupported document.lines).imp fun differ same =>
      differ same.2
  · exact Section.extent_pairwise_ne isSupported document.language document.lines

/-- The first block of a plain document is the whole file, and no other block of any document
is. -/
theorem isWholeFile_iff
    {document : Document}
    {isSupported : String → Bool}
    {number : Nat}
    {block : Block}
    (found : (document.blocks isSupported)[number]? = some block) :
    block.isWholeFile document = true ↔ document.kind = .plain ∧ number = 0 := by
  cases kind : document.kind with
  | tagged => simp [Block.isWholeFile, kind]
  | plain =>
      have plainFound : (Section.blocks isSupported document.language document.lines)[number]? =
          some block := by
        rwa [blocks, kind] at found
      have supported := (Section.supported_of_mem_blocks (List.mem_of_getElem? plainFound)).1
      have tail := @Section.not_whole_of_mem_tail document.language document.lines isSupported
      rw [Section.blocks_eq_cons supported] at plainFound tail
      cases number with
      | zero =>
          obtain rfl := Option.some.inj plainFound
          simp [Block.isWholeFile, Section.wholeFile, lineCount, kind]
      | succ number =>
          have later := List.mem_of_getElem? (List.getElem?_cons_succ ▸ plainFound)
          simp only [Nat.add_one_ne_zero, and_false, iff_false]
          exact fun whole => tail later (Block.extent_of_isWholeFile whole)

/-- A plain document has blocks exactly if its language is supported. -/
theorem blocks_ne_nil_iff
    {document : Document}
    (plain : document.kind = .plain)
    (isSupported : String → Bool) :
    document.blocks isSupported ≠ [] ↔ isSupported document.language = true := by
  rw [blocks, plain]
  cases supported : isSupported document.language with
  | true => simp [Section.blocks_eq_cons supported]
  | false => simp [Section.blocks, supported]

/-- Of all blocks of a document, the first one of a plain document is the whole file and no other
is, and blocks at different places have different titles.  A plain document in a supported
language has a first block, even if it has no lines. -/
theorem titles_tell_blocks_apart (document : Document) (registry : Registry) :
    (∀ number block, (document.blocks registry.contains)[number]? = some block →
      (block.isWholeFile document = true ↔ document.kind = .plain ∧ number = 0)) ∧
    (document.kind = .plain →
      (document.blocks registry.contains ≠ [] ↔ registry.contains document.language = true)) ∧
    ((document.blocks registry.contains).map fun block => block.title document).Nodup := by
  refine ⟨fun _ _ => isWholeFile_iff, fun plain => blocks_ne_nil_iff plain _, ?_⟩
  refine List.pairwise_map.mpr ((extent_pairwise_ne document registry.contains).imp ?_)
  exact fun differ same => differ (Block.title_eq_title_iff.mp same)

/-- The statement on titles, for a plain document without lines, and for one with a section at each
end, whose blocks are called by different titles. -/
theorem titles_tell_blocks_apart_sectioned :
    (sectionedDocument.blocks Registry.builtin.contains).map
        (fun block => block.title sectionedDocument) =
      ["Run Entire File", "Run Block (line 1)", "Run Block (line 4)"] ∧
    (∀ number block, (sectionedDocument.blocks Registry.builtin.contains)[number]? = some block →
      (block.isWholeFile sectionedDocument = true ↔ number = 0)) ∧
    ∃ block, (Document.mk [] "python" .plain).blocks Registry.builtin.contains = [block] ∧
      block.stop = -1 ∧
      block.isWholeFile (.mk [] "python" .plain) = true := by
  refine ⟨by decide +kernel, fun number block found => ?_, ?_⟩
  · exact ((titles_tell_blocks_apart sectionedDocument Registry.builtin).1 number block
      found).trans (and_iff_right rfl)
  · refine ⟨Section.wholeFile "python" [], by decide +kernel, rfl, ?_⟩
    exact ((titles_tell_blocks_apart (.mk [] "python" .plain) Registry.builtin).1 0 _
      (by decide +kernel)).mpr ⟨rfl, rfl⟩

end Document
end Snippets
