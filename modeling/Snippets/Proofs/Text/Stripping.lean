import Mathlib.Data.List.DropRight
import Snippets.Proofs.Text.LowerCase
import Snippets.Text.Blank

/-!
# Blanks at the ends

Taking the blanks off the ends of a text leaves a text that has none there, and lower-casing puts
none there, because no character that is not blank has a blank one among its lower-case forms.  So
a text that was stripped and then lower-cased stays as it is when both are done again.
-/

namespace Snippets
namespace Text

/-! ## Stripped texts -/

/-- Whether neither the first nor the last character is blank. -/
structure IsStripped (characters : List Char) : Prop where
  /-- The first character is not blank. -/
  front : ∀ character, characters.head? = some character → isBlank character = false
  /-- The last character is not blank. -/
  back : ∀ character, characters.getLast? = some character → isBlank character = false

theorem dropWhile_isBlank_of_front
    {characters : List Char}
    (front : ∀ character, characters.head? = some character → isBlank character = false) :
    characters.dropWhile isBlank = characters := by
  cases characters with
  | nil => rfl
  | cons character rest => rw [List.dropWhile_cons_of_neg (by simp [front character rfl])]

/-- There is nothing to take off a stripped text. -/
theorem stripList_of_isStripped
    {characters : List Char}
    (stripped : IsStripped characters) :
    stripList characters = characters := by
  have back : ∀ character, characters.reverse.head? = some character →
      isBlank character = false := by
    simpa using stripped.back
  rw [stripList, dropWhile_isBlank_of_front stripped.front, dropWhile_isBlank_of_front back,
    List.reverse_reverse]

theorem isBlank_head?_dropWhile
    {characters : List Char}
    {character : Char}
    (first : (characters.dropWhile isBlank).head? = some character) :
    isBlank character = false := by
  simpa [first] using List.head?_dropWhile_not isBlank characters

theorem stripList_prefix_dropWhile (characters : List Char) :
    stripList characters <+: characters.dropWhile isBlank :=
  List.rdropWhile_prefix isBlank _

/-- A text without the blanks at its ends is stripped. -/
theorem isStripped_stripList (characters : List Char) : IsStripped (stripList characters) := by
  constructor
  · intro character first
    obtain ⟨rest, same⟩ := stripList_prefix_dropWhile characters
    have firstNotBlank : (characters.dropWhile isBlank).head? = some character := by
      rw [← same, List.head?_append, first, Option.some_or]
    exact isBlank_head?_dropWhile firstNotBlank
  · intro character last
    rw [stripList, List.getLast?_reverse] at last
    exact isBlank_head?_dropWhile last

/-- Nothing is left of a text, when it is stripped, if all of its characters are blank. -/
theorem stripList_eq_nil_iff {characters : List Char} :
    stripList characters = [] ↔ ∀ character ∈ characters, isBlank character = true := by
  rw [stripList, List.reverse_eq_nil_iff, List.dropWhile_eq_nil_iff]
  simp only [List.mem_reverse]
  constructor
  · intro blank character present
    rw [← List.takeWhile_append_dropWhile (p := isBlank) (l := characters)] at present
    rcases List.mem_append.mp present with front | back
    · exact List.mem_takeWhile_imp front
    · exact blank character back
  · intro blank character present
    exact blank character ((List.dropWhile_suffix isBlank).mem present)

theorem strip_eq_empty_iff {text : String} : strip text = "" ↔ isBlankText text = true := by
  rw [← String.toList_inj, strip, String.toList_ofList, String.toList_empty,
    stripList_eq_nil_iff, isBlankText, List.all_eq_true]

/-! ## Stripped texts in lower case -/

/-- No code point of a lower-case form is that of a blank. -/
theorem avoidsBlanks_caseRuns :
    ∀ run ∈ caseRuns, 32 < run.lower ∧
      (run.lower + (run.last - run.first) < 0x85 ∨ 0x85 < run.lower) ∧
      (run.lower + (run.last - run.first) < 0xA0 ∨ 0xA0 < run.lower) ∧
      (run.lower + (run.last - run.first) < 0x1680 ∨ 0x1680 < run.lower) ∧
      (run.lower + (run.last - run.first) < 0x2000 ∨ 0x200A < run.lower) ∧
      (run.lower + (run.last - run.first) < 0x2028 ∨ 0x2029 < run.lower) ∧
      (run.lower + (run.last - run.first) < 0x202F ∨ 0x202F < run.lower) ∧
      (run.lower + (run.last - run.first) < 0x205F ∨ 0x205F < run.lower) ∧
      (run.lower + (run.last - run.first) < 0x3000 ∨ 0x3000 < run.lower) := by
  decide +kernel

/-- A character that is not blank has no blank one as its lower-case form. -/
theorem isBlank_lowerChar
    {character : Char}
    (notBlank : isBlank character = false) :
    isBlank (lowerChar character) = false := by
  rcases lowerIn_eq_or_hasLetter caseRuns character.toNat with same | ⟨run, present, letter, form⟩
  · rw [lowerChar, same, Char.ofNat_toNat, notBlank]
  · have code := toNat_lowerChar present letter form
    have away := avoidsBlanks_caseRuns run present
    have within := letter.2.1
    refine Bool.eq_false_iff.mpr fun blank => ?_
    simp only [isBlank, code, Bool.or_eq_true, Bool.and_eq_true, decide_eq_true_eq] at blank
    omega

theorem isBlank_of_mem_lowerBetween
    {before after : List Char}
    {character other : Char}
    (notBlank : isBlank character = false)
    (present : other ∈ lowerBetween before character after) :
    isBlank other = false := by
  rcases mem_lowerBetween present with rfl | rfl | rfl | rfl | ⟨-, rfl⟩
  · decide
  · decide
  · decide
  · decide
  · exact isBlank_lowerChar notBlank

/-- The last character is lower-cased on its own, after all others. -/
theorem lowerFrom_concat (before rest : List Char) (last : Char) :
    ∃ front before',
      lowerFrom before [] (rest ++ [last]) = front ++ lowerBetween before' last [] := by
  induction rest generalizing before with
  | nil => exact ⟨[], before, by simp [lowerFrom_cons, lowerFrom]⟩
  | cons character rest inductionHypothesis =>
      obtain ⟨front, before', later⟩ := inductionHypothesis (character :: before)
      refine ⟨lowerBetween before character (rest ++ [last]) ++ front, before', ?_⟩
      rw [List.cons_append, lowerFrom_cons, later, List.append_assoc]

theorem lowerBetween_ne_nil (before : List Char) (character : Char) (after : List Char) :
    lowerBetween before character after ≠ [] := by
  unfold lowerBetween
  split
  · split <;> exact List.cons_ne_nil _ _
  · split <;> exact List.cons_ne_nil _ _

/-- A stripped text stays stripped when it is lower-cased. -/
theorem IsStripped.lowerFrom
    {characters : List Char}
    (stripped : IsStripped characters) :
    IsStripped (lowerFrom [] [] characters) := by
  constructor
  · intro other first
    cases characters with
    | nil => cases first
    | cons character rest =>
        rw [lowerFrom_cons, List.head?_append_of_ne_nil _ (lowerBetween_ne_nil _ _ _)] at first
        exact isBlank_of_mem_lowerBetween (stripped.front character rfl) (List.mem_of_head? first)
  · intro other last
    rcases List.eq_nil_or_concat characters with rfl | ⟨rest, character, rfl⟩
    · cases last
    · obtain ⟨front, before, whole⟩ := lowerFrom_concat [] rest character
      rw [List.concat_eq_append, whole,
        List.getLast?_append_of_ne_nil _ (lowerBetween_ne_nil _ _ _)] at last
      exact isBlank_of_mem_lowerBetween (stripped.back character (by simp))
        (List.mem_of_getLast? last)

/-- A text that was stripped and lower-cased has no blanks at its ends. -/
theorem strip_lowercase_strip (text : String) :
    strip (lowercase (strip text)) = lowercase (strip text) := by
  have stripped : IsStripped (lowercase (strip text)).toList := by
    rw [lowercase, String.toList_ofList, strip, String.toList_ofList]
    exact (isStripped_stripList text.toList).lowerFrom
  rw [strip, stripList_of_isStripped stripped, String.ofList_toList]

theorem lowercase_ne_empty {text : String} (notEmpty : text ≠ "") : lowercase text ≠ "" := by
  cases characters : text.toList with
  | nil => exact absurd (String.toList_eq_nil_iff.mp characters) notEmpty
  | cons character rest =>
      rw [lowercase, characters, lowerFrom_cons]
      intro empty
      have none := congrArg String.toList empty
      rw [String.toList_ofList] at none
      exact lowerBetween_ne_nil _ _ _ (List.append_eq_nil_iff.mp none).1

end Text
end Snippets
