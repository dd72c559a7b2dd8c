import Snippets.Proofs.Config.Lookup
import Snippets.Proofs.Detection.Redetection

/-!
# Blocks in supported languages

A registry has no say in where blocks begin and end.  A pair of fences is used up whether or not
its block can be run, so searches with two registries pass over the lines in step, and a block
that one of them leaves out is simply missing.  The main statement says that what is found with a
registry is what is found with a larger one, less the blocks in other languages.
-/

namespace Snippets

namespace Fence

variable (isSupported : String → Bool)

/-- Two fences enclose the same block for every registry that supports its language, and none for
the others. -/
theorem block?_eq_filter
    (anchor : Nat)
    (opening : Line)
    (lines : List Line) :
    block? isSupported anchor opening lines =
      (block? (fun _ => true) anchor opening lines).filter fun block =>
        isSupported block.language := by
  unfold block?
  cases openingTag? opening.text with
  | none => rfl
  | some tag =>
      rw [Option.bind_some, Option.bind_some]
      by_cases empty : lines = []
      · simp [empty]
      · cases supported : isSupported (Language.resolve tag) <;>
          simp [empty, supported, Option.filter_some]

/-- Two scans from the same state, one of which supports all languages, stay in the same state.
Of the blocks that are found, the other keeps those in the languages that it supports. -/
theorem scan_filter
    (index : Nat)
    (state : Scan)
    (found : List Block)
    (lines : List Line) :
    scan isSupported index state (found.filter fun block => isSupported block.language) lines =
      (scan (fun _ => true) index state found lines).filter fun block =>
        isSupported block.language := by
  induction lines generalizing index state found with
  | nil => rw [scan, scan, List.filter_reverse]
  | cons line rest inductionHypothesis =>
      cases state with
      | outside =>
          rw [scan, scan]
          split
          · exact inductionHypothesis _ _ _
          · exact inductionHypothesis _ _ _
      | inside anchor opening reversed =>
          rw [scan, scan]
          split
          · rw [← inductionHypothesis, List.filter_append, block?_eq_filter, Option.toList_filter]
          · exact inductionHypothesis _ _ _

theorem blocks_eq_filter (lines : List Line) :
    blocks isSupported lines =
      (blocks (fun _ => true) lines).filter fun block => isSupported block.language :=
  scan_filter isSupported 0 .outside [] lines

end Fence

namespace Section

theorem blocks_eq_filter
    (isSupported : String → Bool)
    (language : String)
    (lines : List Line) :
    blocks isSupported language lines =
      (blocks (fun _ => true) language lines).filter fun block => isSupported block.language := by
  have own : ∀ block ∈ blocks (fun _ => true) language lines, block.language = language :=
    fun block present => (supported_of_mem_blocks present).2
  cases supported : isSupported language with
  | true =>
      rw [List.filter_eq_self.mpr fun block present => own block present ▸ supported]
      simp [blocks, supported]
  | false =>
      have none : ∀ block ∈ blocks (fun _ => true) language lines,
          ¬isSupported block.language = true := by
        intro block present
        rw [own block present, supported]
        exact Bool.false_ne_true
      rw [List.filter_eq_nil_iff.mpr none]
      simp [blocks, supported]

end Section

namespace Document

/-- The blocks that are found are those that a search finds which supports all languages, less
the ones in languages that are not supported. -/
theorem blocks_eq_filter (document : Document) (isSupported : String → Bool) :
    document.blocks isSupported =
      (document.blocks fun _ => true).filter fun block => isSupported block.language := by
  unfold blocks
  split
  · exact Fence.blocks_eq_filter isSupported document.lines
  · exact Section.blocks_eq_filter isSupported document.language document.lines

/-- A search that supports fewer languages leaves blocks out and changes none. -/
theorem blocks_eq_filter_of_le
    {isSupported more : String → Bool}
    (le : ∀ language, isSupported language = true → more language = true)
    (document : Document) :
    document.blocks isSupported =
      (document.blocks more).filter fun block => isSupported block.language := by
  rw [blocks_eq_filter, blocks_eq_filter document more, List.filter_filter]
  refine List.filter_congr fun block _ => ?_
  cases supported : isSupported block.language with
  | true => rw [le _ supported, Bool.and_self]
  | false => rw [Bool.false_and]

/-- With the languages of a registry among those of a larger one, the blocks are those that are
found with the larger one in these languages.  So registries with the same languages give the same
blocks, whatever their runners are, and a further language adds blocks in that language and leaves
all others as they are. -/
theorem blocks_eq_filter_languages (document : Document) (registry larger : Registry) :
    ((∀ language ∈ registry.languages, language ∈ larger.languages) →
      document.blocks registry.contains =
        (document.blocks larger.contains).filter fun block =>
          decide (block.language ∈ registry.languages)) ∧
    ((∀ language, language ∈ registry.languages ↔ language ∈ larger.languages) →
      document.blocks registry.contains = document.blocks larger.contains) ∧
    ∀ language runner,
      document.blocks registry.contains =
        (document.blocks (registry.insert language runner).contains).filter
          (fun block => decide (block.language ∈ registry.languages)) ∧
      ∀ block ∈ document.blocks (registry.insert language runner).contains,
        block ∈ document.blocks registry.contains ∨ block.language = language := by
  have contains : registry.contains = fun language => decide (language ∈ registry.languages) :=
    funext fun language =>
      Bool.eq_iff_iff.mpr (Registry.contains_iff_mem_languages.trans decide_eq_true_iff.symm)
  refine ⟨fun subset => ?_, fun same => ?_, fun language runner => ?_⟩
  · have le : ∀ language, registry.contains language = true → larger.contains language = true :=
      fun language known => Registry.contains_iff_mem_languages.mpr
        (subset language (Registry.contains_iff_mem_languages.mp known))
    rw [blocks_eq_filter_of_le le, contains]
  · have equal : registry.contains = larger.contains :=
      funext fun language => Bool.eq_iff_iff.mpr
        (Registry.contains_iff_mem_languages.trans
          ((same language).trans Registry.contains_iff_mem_languages.symm))
    rw [equal]
  · have le : ∀ other, registry.contains other = true →
        (registry.insert language runner).contains other = true := by
      intro other known
      rw [Registry.contains_insert, known, Bool.or_true]
    refine ⟨by rw [blocks_eq_filter_of_le le, contains], fun block present => ?_⟩
    have supported := supported_of_mem_blocks present
    rw [Registry.contains_insert, Bool.or_eq_true, decide_eq_true_iff] at supported
    refine supported.symm.imp (fun known => ?_) id
    rw [blocks_eq_filter_of_le le]
    exact List.mem_filter.mpr ⟨present, known⟩

/-- A registry with a runner for one language. -/
def loneRegistry : Registry :=
  Registry.empty.insert "python" ⟨"pypy3 \"\x7bfile\x7d\"", ".pypy"⟩

/-- A document with a block before the one in the language of that registry. -/
def mixedDocument : Document where
  lines := [⟨"```ruby"⟩, ⟨"a"⟩, ⟨"```python"⟩, ⟨"b"⟩, ⟨"```py"⟩, ⟨"c"⟩, ⟨"```"⟩]
  language := Language.markdown
  kind := .tagged

/-- The statement on registries, for the closing fence of a block that is left out, which looks
like the opening fence of one that is not. -/
theorem blocks_eq_filter_languages_lone :
    (∀ language ∈ loneRegistry.languages, language ∈ Registry.builtin.languages) ∧
    mixedDocument.blocks Registry.builtin.contains =
      [⟨1, 1, "ruby", "a", 0⟩, ⟨5, 5, "python", "c", 4⟩] ∧
    mixedDocument.blocks loneRegistry.contains = [⟨5, 5, "python", "c", 4⟩] := by
  have subset : ∀ language ∈ loneRegistry.languages, language ∈ Registry.builtin.languages := by
    decide +kernel
  have found : mixedDocument.blocks Registry.builtin.contains =
      [⟨1, 1, "ruby", "a", 0⟩, ⟨5, 5, "python", "c", 4⟩] := by
    decide +kernel
  refine ⟨subset, found, ?_⟩
  rw [(blocks_eq_filter_languages mixedDocument loneRegistry Registry.builtin).1 subset, found]
  decide +kernel

end Document
end Snippets
