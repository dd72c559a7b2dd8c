import Snippets.Proofs.Text.Utf8
import Snippets.Text.Lowercase
import Snippets.Text.Word

/-!
# Lower case

Lower-casing leaves a character alone if it is its own lower-case form and not the capital I
with a dot above, which has two characters as its form.  All characters of a text in lower case
are of this kind, so lower-casing a text again changes nothing.  A character that is the form of no
other one is in the lower-case form of a text only if it is in the text.

A spelling of a word in lower case is any text whose lower-case form is that word.  If the word
has ASCII characters only, none of the characters of a spelling has a lower-case form of two
characters or one that depends on its place: a spelling has the word's length, and each of its
characters may occur in a language tag if the one in its place does.
-/

namespace Snippets
namespace Text

/-! ## One code point -/

namespace CaseRun

/-- Whether a code point is that of a capital letter of a run. -/
def HasLetter (run : CaseRun) (code : Nat) : Prop :=
  run.first ≤ code ∧ code ≤ run.last ∧ (code - run.first) % run.step = 0

/-- Whether the lower-case forms of a run are characters other than the capital I with a dot
above. -/
def HasForms (run : CaseRun) : Prop :=
  (run.lower + (run.last - run.first) < 0xD800 ∨
    0xDFFF < run.lower ∧ run.lower + (run.last - run.first) < 0x110000) ∧
  (run.lower + (run.last - run.first) < dottedCapitalI.toNat ∨ dottedCapitalI.toNat < run.lower)

instance (run : CaseRun) : Decidable run.HasForms :=
  inferInstanceAs (Decidable (_ ∧ _))

/-- Whether no lower-case form of a run is a capital letter of another: they lie on one side of
these letters, or in between them. -/
def isApart (run other : CaseRun) : Bool :=
  (run.lower + (run.last - run.first)).blt other.first || other.last.blt run.lower ||
    (run.step.beq 2 || run.first.beq run.last) && other.step.beq 2 &&
      ((run.lower + other.first) % 2).beq 1

theorem hasForms_caseRuns : ∀ run ∈ caseRuns, run.HasForms := by
  decide +kernel

theorem isApart_caseRuns : caseRuns.all (fun run => caseRuns.all run.isApart) = true := by
  decide +kernel

theorem not_hasLetter_of_isApart
    {run other : CaseRun}
    {code : Nat}
    (apart : run.isApart other = true)
    (letter : run.HasLetter code) :
    ¬other.HasLetter (run.lower + (code - run.first)) := by
  rintro ⟨notBefore, notAfter, inStep⟩
  obtain ⟨least, greatest, ownStep⟩ := letter
  simp only [isApart, Bool.or_eq_true, Bool.and_eq_true, Nat.blt_eq, Nat.beq_eq] at apart
  rcases apart with (below | above) | ⟨⟨ownDistance, distance⟩, odd⟩
  · omega
  · omega
  · rw [distance] at inStep
    rcases ownDistance with two | single
    · rw [two] at ownStep
      omega
    · omega

end CaseRun

/-- A code point is changed only if it is that of a capital letter. -/
theorem lowerIn_eq_or_hasLetter (runs : List CaseRun) (code : Nat) :
    lowerIn runs code = code ∨
      ∃ run ∈ runs, run.HasLetter code ∧ lowerIn runs code = run.lower + (code - run.first) := by
  induction runs with
  | nil => exact .inl rfl
  | cons run rest inductionHypothesis =>
      unfold lowerIn
      split
      · exact .inl rfl
      · rename_i notBefore
        split
        · rename_i notAfter
          split
          · rename_i inStep
            exact .inr ⟨run, List.mem_cons_self, ⟨Nat.le_of_not_lt notBefore, notAfter, inStep⟩, rfl⟩
          · exact .inl rfl
        · refine inductionHypothesis.imp id ?_
          rintro ⟨other, present, letter⟩
          exact ⟨other, List.mem_cons_of_mem _ present, letter⟩

/-! ## One character -/

/-- Whether a character is left alone when a text is lower-cased. -/
def IsLower (character : Char) : Prop :=
  lowerChar character = character ∧ character ≠ dottedCapitalI

instance (character : Char) : Decidable (IsLower character) :=
  inferInstanceAs (Decidable (_ ∧ _))

/-- The lower-case form of a capital letter of a run is as far into the forms of the run as the
letter is into its letters. -/
theorem toNat_lowerChar
    {character : Char}
    {run : CaseRun}
    (present : run ∈ caseRuns)
    (letter : run.HasLetter character.toNat)
    (form : lowerIn caseRuns character.toNat = run.lower + (character.toNat - run.first)) :
    (lowerChar character).toNat = run.lower + (character.toNat - run.first) := by
  obtain ⟨isCharacter, -⟩ := CaseRun.hasForms_caseRuns run present
  have within := letter.2.1
  have valid : Nat.isValidChar (run.lower + (character.toNat - run.first)) := by
    unfold Nat.isValidChar
    omega
  rw [lowerChar, form, toNat_ofNat_of_isValidChar valid]

/-- The lower-case form of a character, the capital I with a dot above excepted, is left
alone. -/
theorem isLower_lowerChar
    {character : Char}
    (notDotted : character ≠ dottedCapitalI) :
    IsLower (lowerChar character) := by
  rcases lowerIn_eq_or_hasLetter caseRuns character.toNat with same | ⟨run, present, letter, form⟩
  · have own : lowerChar character = character := by rw [lowerChar, same, Char.ofNat_toNat]
    rw [own]
    exact ⟨own, notDotted⟩
  · have apart := List.all_eq_true.mp (List.all_eq_true.mp CaseRun.isApart_caseRuns run present)
    obtain ⟨-, otherThanDotted⟩ := CaseRun.hasForms_caseRuns run present
    have within := letter.2.1
    have code := toNat_lowerChar present letter form
    constructor
    · rcases lowerIn_eq_or_hasLetter caseRuns (lowerChar character).toNat with
        same | ⟨other, isOther, again, -⟩
      · rw [lowerChar, same, Char.ofNat_toNat]
      · exact absurd (code ▸ again) (CaseRun.not_hasLetter_of_isApart (apart other isOther) letter)
    · intro same
      rw [same] at code
      omega

theorem IsLower.ne_capitalSigma
    {character : Char}
    (isLower : IsLower character) :
    character ≠ capitalSigma := by
  rintro rfl
  exact absurd isLower.1 (by decide +kernel)

/-! ## Texts -/

/-- A character is brought into one of the forms of the two capital letters that are treated on
their own, or into its lower-case form. -/
theorem mem_lowerBetween
    {before after : List Char}
    {character other : Char}
    (present : other ∈ lowerBetween before character after) :
    other = 'ς' ∨ other = 'σ' ∨ other = 'i' ∨ other = '\u0307' ∨
      character ≠ dottedCapitalI ∧ other = lowerChar character := by
  unfold lowerBetween at present
  split at present
  · split at present
    · exact .inl (List.mem_singleton.mp present)
    · exact .inr (.inl (List.mem_singleton.mp present))
  · split at present
    · rcases List.mem_cons.mp present with same | later
      · exact .inr (.inr (.inl same))
      · exact .inr (.inr (.inr (.inl (List.mem_singleton.mp later))))
    · rename_i notDotted
      exact .inr (.inr (.inr (.inr ⟨notDotted, List.mem_singleton.mp present⟩)))

/-- Whatever is around a character, its lower-case form is left alone. -/
theorem isLower_of_mem_lowerBetween
    {before after : List Char}
    {character other : Char}
    (present : other ∈ lowerBetween before character after) :
    IsLower other := by
  rcases mem_lowerBetween present with rfl | rfl | rfl | rfl | ⟨notDotted, rfl⟩
  · decide +kernel
  · decide +kernel
  · decide +kernel
  · decide +kernel
  · exact isLower_lowerChar notDotted

theorem lowerBetween_of_isLower
    {character : Char}
    (isLower : IsLower character)
    (before after : List Char) :
    lowerBetween before character after = [character] := by
  rw [lowerBetween, if_neg isLower.ne_capitalSigma, if_neg isLower.2, isLower.1]

theorem isLower_of_mem_lowerFrom
    {before result rest : List Char}
    (settled : ∀ character ∈ result, IsLower character)
    {character : Char}
    (present : character ∈ lowerFrom before result rest) :
    IsLower character := by
  induction rest generalizing before result with
  | nil => exact settled character (List.mem_reverse.mp present)
  | cons next rest inductionHypothesis =>
      refine inductionHypothesis (fun other among => ?_) present
      rcases List.mem_append.mp among with new | old
      · exact isLower_of_mem_lowerBetween (List.mem_reverse.mp new)
      · exact settled other old

theorem lowerFrom_of_isLower
    {rest : List Char}
    (settled : ∀ character ∈ rest, IsLower character)
    (before result : List Char) :
    lowerFrom before result rest = result.reverse ++ rest := by
  induction rest generalizing before result with
  | nil => simp [lowerFrom]
  | cons character rest inductionHypothesis =>
      obtain ⟨first, later⟩ := List.forall_mem_cons.mp settled
      rw [lowerFrom, lowerBetween_of_isLower first, inductionHypothesis later]
      simp

/-- Lower-casing a text in lower case changes nothing. -/
@[simp] theorem lowercase_lowercase (text : String) :
    lowercase (lowercase text) = lowercase text := by
  have settled : ∀ character ∈ (lowercase text).toList, IsLower character := by
    intro character present
    rw [lowercase, String.toList_ofList] at present
    exact isLower_of_mem_lowerFrom (by simp) present
  rw [lowercase, lowerFrom_of_isLower settled, List.reverse_nil, List.nil_append,
    String.ofList_toList]

/-! ## Spellings of words in ASCII -/

/-- Whether a character is one of ASCII. -/
def IsAscii (character : Char) : Prop :=
  character.toNat < 128

instance (character : Char) : Decidable (IsAscii character) :=
  inferInstanceAs (Decidable (_ < _))

/-! ## Lower-casing character by character -/

/-- The result so far stands in front of what the rest gives. -/
theorem lowerFrom_eq_append (before result rest : List Char) :
    lowerFrom before result rest = result.reverse ++ lowerFrom before [] rest := by
  induction rest generalizing before result with
  | nil => simp [lowerFrom]
  | cons character rest inductionHypothesis =>
      rw [lowerFrom, lowerFrom, inductionHypothesis, inductionHypothesis _ (_ ++ [])]
      simp

theorem lowerFrom_cons (before : List Char) (character : Char) (rest : List Char) :
    lowerFrom before [] (character :: rest) =
      lowerBetween before character rest ++ lowerFrom (character :: before) [] rest := by
  rw [lowerFrom, lowerFrom_eq_append]
  simp

/-- Whether a character is the lower-case form of no other character: no run of letters gives it,
and it is no form of a capital letter that is treated on its own. -/
def IsNoForm (character : Char) : Prop :=
  (∀ run ∈ caseRuns, run.lower + (run.last - run.first) < character.toNat ∨
    character.toNat < run.lower) ∧
  character ≠ 'ς' ∧ character ≠ 'σ' ∧ character ≠ 'i' ∧ character ≠ '\u0307'

theorem IsNoForm.eq_of_mem_lowerBetween
    {before after : List Char}
    {character other : Char}
    (isNoForm : IsNoForm other)
    (present : other ∈ lowerBetween before character after) :
    other = character := by
  obtain ⟨avoids, notFinal, notSigma, notDotless, notDot⟩ := isNoForm
  rcases mem_lowerBetween present with same | same | same | same | ⟨-, same⟩
  · exact absurd same notFinal
  · exact absurd same notSigma
  · exact absurd same notDotless
  · exact absurd same notDot
  · rcases lowerIn_eq_or_hasLetter caseRuns character.toNat with own | ⟨run, among, letter, form⟩
    · rw [same, lowerChar, own, Char.ofNat_toNat]
    · have away := avoids run among
      have within := letter.2.1
      have code := toNat_lowerChar among letter form
      rw [← same] at code
      omega

/-- Lower-casing brings no character into a text that is the form of no other one. -/
theorem IsNoForm.mem_of_mem_lowerFrom
    {before rest : List Char}
    {character : Char}
    (isNoForm : IsNoForm character)
    (present : character ∈ lowerFrom before [] rest) :
    character ∈ rest := by
  induction rest generalizing before with
  | nil => simp [lowerFrom] at present
  | cons first rest inductionHypothesis =>
      rw [lowerFrom_cons, List.mem_append] at present
      rcases present with now | later
      · exact isNoForm.eq_of_mem_lowerBetween now ▸ List.mem_cons_self
      · exact List.mem_cons_of_mem first (inductionHypothesis later)

/-- Where the lower-case form has ASCII characters only, it is a single character and does not
depend on what is around. -/
theorem lowerBetween_of_isAscii
    {before after : List Char}
    {character : Char}
    (ascii : ∀ other ∈ lowerBetween before character after, IsAscii other) :
    lowerBetween before character after = [lowerChar character] := by
  have sigma : ¬IsAscii 'ς' ∧ ¬IsAscii 'σ' := by decide
  have dot : ¬IsAscii '\u0307' := by decide
  unfold lowerBetween at ascii ⊢
  split at ascii
  · split at ascii
    · exact absurd (ascii 'ς' List.mem_cons_self) sigma.1
    · exact absurd (ascii 'σ' List.mem_cons_self) sigma.2
  · split at ascii
    · exact absurd (ascii '\u0307' (by simp)) dot
    · rename_i notSigma notDotted
      rw [if_neg notSigma, if_neg notDotted]

theorem lowerFrom_of_isAscii
    {before rest : List Char}
    (ascii : ∀ other ∈ lowerFrom before [] rest, IsAscii other) :
    lowerFrom before [] rest = rest.map lowerChar := by
  induction rest generalizing before with
  | nil => rfl
  | cons character rest inductionHypothesis =>
      rw [lowerFrom_cons] at ascii ⊢
      have own := lowerBetween_of_isAscii fun other present =>
        ascii other (List.mem_append_left _ present)
      have later := inductionHypothesis fun other present =>
        ascii other (List.mem_append_right _ present)
      rw [own, later, List.map_cons, List.singleton_append]

/-- A character whose lower-case form is one of ASCII is lower-cased by itself. -/
theorem lowerBetween_of_isAscii_lowerChar
    {character : Char}
    (ascii : IsAscii (lowerChar character))
    (before after : List Char) :
    lowerBetween before character after = [lowerChar character] := by
  have notSigma : character ≠ capitalSigma := by
    rintro rfl
    exact absurd ascii (by decide)
  have notDotted : character ≠ dottedCapitalI := by
    rintro rfl
    exact absurd ascii (by decide)
  rw [lowerBetween, if_neg notSigma, if_neg notDotted]

theorem lowerFrom_of_isAscii_lowerChar
    {rest : List Char}
    (ascii : ∀ character ∈ rest, IsAscii (lowerChar character))
    (before : List Char) :
    lowerFrom before [] rest = rest.map lowerChar := by
  induction rest generalizing before with
  | nil => rfl
  | cons character rest inductionHypothesis =>
      obtain ⟨first, later⟩ := List.forall_mem_cons.mp ascii
      rw [lowerFrom_cons, lowerBetween_of_isAscii_lowerChar first, inductionHypothesis later]
      rfl

/-! ## Characters of tags -/

theorem isWord_caseRuns :
    ∀ run ∈ caseRuns, run.lower < 128 → ∀ offset < run.last - run.first + 1,
      inRanges wordRanges (run.lower + offset) = inRanges wordRanges (run.first + offset) := by
  decide +kernel

/-- A character may occur in a tag if its lower-case form does, which is one of ASCII. -/
theorem isWord_lowerChar
    {character : Char}
    (ascii : IsAscii (lowerChar character)) :
    isWord (lowerChar character) = isWord character := by
  rcases lowerIn_eq_or_hasLetter caseRuns character.toNat with same | ⟨run, present, letter, form⟩
  · rw [lowerChar, same, Char.ofNat_toNat]
  · have code := toNat_lowerChar present letter form
    have small : run.lower < 128 := by
      rw [IsAscii, code] at ascii
      omega
    obtain ⟨notBefore, notAfter, -⟩ := letter
    have offset : character.toNat - run.first < run.last - run.first + 1 := by omega
    have place : run.first + (character.toNat - run.first) = character.toNat := by omega
    have agree := isWord_caseRuns run present small _ offset
    rw [place, ← code] at agree
    exact agree

end Text
end Snippets
