import Snippets.Text.LineBreak

/-!
# Where a text is cut

`Cut` says which lines a text has without saying how they are found: lines without breaks
stand between line feeds, carriage returns, and carriage returns with a line feed.  Every text
has one cut, the one that `splitLines` makes, and a text keeps it when its breaks are unified.
Lines without breaks that are put together with breaks of one kind are cut apart again exactly
where they were put together.
-/

namespace Snippets
namespace Text

/-! ## Lines without breaks -/

/-- Whether a line holds no character that breaks lines. -/
def IsUnbroken (line : List Char) : Prop :=
  '\n' ∉ line ∧ '\r' ∉ line

theorem isUnbroken_nil : IsUnbroken [] := by simp [IsUnbroken]

theorem isUnbroken_cons_iff (character : Char) (line : List Char) :
    IsUnbroken (character :: line) ↔
      (character ≠ '\n' ∧ character ≠ '\r') ∧ IsUnbroken line := by
  simp only [IsUnbroken, List.mem_cons, not_or, ne_eq, eq_comm (a := character)]
  exact and_and_and_comm

namespace SplitState

/-- One more character before a text leaves all its lines without breaks. -/
theorem isUnbroken_push
    {state : SplitState}
    (unbroken : ∀ line ∈ state.lines, IsUnbroken line)
    (character : Char) :
    ∀ line ∈ (state.push character).lines, IsUnbroken line := by
  have later : ∀ line ∈ state.rest, IsUnbroken line :=
    fun line present => unbroken line (List.mem_cons_of_mem _ present)
  unfold push
  split
  · exact List.forall_mem_cons.mpr ⟨isUnbroken_nil, unbroken⟩
  · rename_i notFeed
    split
    · -- A carriage return starts a line, and a line feed after it starts no other.
      split
      · exact List.forall_mem_cons.mpr ⟨isUnbroken_nil, later⟩
      · exact List.forall_mem_cons.mpr ⟨isUnbroken_nil, unbroken⟩
    · rename_i notReturn
      have first := unbroken state.line List.mem_cons_self
      exact List.forall_mem_cons.mpr
        ⟨(isUnbroken_cons_iff _ _).mpr ⟨⟨notFeed, notReturn⟩, first⟩, later⟩

/-- Characters that break no line only make the first line longer. -/
theorem lines_foldr_push
    {line : List Char}
    (unbroken : IsUnbroken line)
    (state : SplitState) :
    (line.foldr push state).lines = (line ++ state.line) :: state.rest := by
  induction line with
  | nil => rfl
  | cons character line inductionHypothesis =>
      obtain ⟨⟨noFeed, noReturn⟩, later⟩ := (isUnbroken_cons_iff character line).mp unbroken
      have rest := inductionHypothesis later
      rw [lines, List.cons.injEq] at rest
      rw [List.foldr_cons, push, if_neg noFeed, if_neg noReturn, lines, rest.1, rest.2,
        List.cons_append]

end SplitState

/-- No line of a text holds a break. -/
theorem isUnbroken_of_mem_splitLines
    {characters line : List Char}
    (present : line ∈ splitLines characters) :
    IsUnbroken line := by
  induction characters generalizing line with
  | nil =>
      rw [List.mem_singleton.mp present]
      exact isUnbroken_nil
  | cons character rest inductionHypothesis =>
      exact SplitState.isUnbroken_push (fun _ => inductionHypothesis) character line present

theorem splitLines_of_isUnbroken
    {line : List Char}
    (unbroken : IsUnbroken line) :
    splitLines line = [line] := by
  rw [splitLines, SplitState.lines_foldr_push unbroken]
  simp [SplitState.empty]

/-! ## Cuts -/

/-- Whether characters are one break before a rest of a text. -/
inductive IsBreak : List Char → List Char → Prop where
  /-- A line feed. -/
  | feed {rest : List Char} : IsBreak ['\n'] rest
  /-- A carriage return that no line feed follows. -/
  | plainReturn {rest : List Char} (noFeed : rest.head? ≠ some '\n') : IsBreak ['\r'] rest
  /-- A carriage return and the line feed after it. -/
  | returnFeed {rest : List Char} : IsBreak ['\r', '\n'] rest

/-- The lines of a text. -/
inductive Cut : List Char → List (List Char) → Prop where
  /-- A text without breaks is one line. -/
  | last {line : List Char} (unbroken : IsUnbroken line) : Cut line [line]
  /-- A line ends at a break, and what follows the break is cut in turn. -/
  | line {line mark rest : List Char} {lines : List (List Char)} (unbroken : IsUnbroken line)
      (isBreak : IsBreak mark rest) (later : Cut rest lines) :
      Cut (line ++ (mark ++ rest)) (line :: lines)

namespace Cut

/-- A break at the start of a text ends an empty line. -/
theorem of_isBreak
    {mark rest : List Char}
    {lines : List (List Char)}
    (isBreak : IsBreak mark rest)
    (later : Cut rest lines) :
    Cut (mark ++ rest) ([] :: lines) :=
  .line isUnbroken_nil isBreak later

/-- A character that is no break makes the first line longer. -/
theorem cons
    {character : Char}
    {text line : List Char}
    {lines : List (List Char)}
    (noBreak : character ≠ '\n' ∧ character ≠ '\r')
    (cut : Cut text (line :: lines)) :
    Cut (character :: text) ((character :: line) :: lines) := by
  cases cut with
  | last unbroken => exact .last ((isUnbroken_cons_iff _ _).mpr ⟨noBreak, unbroken⟩)
  | line unbroken isBreak later =>
      exact .line ((isUnbroken_cons_iff _ _).mpr ⟨noBreak, unbroken⟩) isBreak later

end Cut

/-! ## The cut that is made -/

namespace SplitState

/-- Whether a state is the one of a text read from its end. -/
structure Reads (state : SplitState) (text : List Char) : Prop where
  /-- The lines of the state are those of the text. -/
  lines : Cut text state.lines
  /-- After a line feed at the start of the text, the later lines are those of the rest. -/
  feed : state.feed = true → ∃ rest, text = '\n' :: rest ∧ Cut rest state.rest
  /-- A line feed at the start of the text is noticed. -/
  noFeed : state.feed = false → text.head? ≠ some '\n'

theorem reads_empty : Reads empty [] where
  lines := .last isUnbroken_nil
  feed := nofun
  noFeed := by simp

theorem Reads.push
    {state : SplitState}
    {text : List Char}
    (reads : state.Reads text)
    (character : Char) :
    (state.push character).Reads (character :: text) := by
  unfold SplitState.push
  split
  · rename_i isFeed
    subst isFeed
    exact ⟨.of_isBreak .feed reads.lines, fun _ => ⟨text, rfl, reads.lines⟩, nofun⟩
  · rename_i notFeed
    have head : (character :: text).head? ≠ some '\n' := by simpa using notFeed
    split
    · rename_i isReturn
      subst isReturn
      split
      · -- The line feed after the carriage return has started the later lines already.
        rename_i isFeed
        obtain ⟨rest, rfl, later⟩ := reads.feed isFeed
        exact ⟨.of_isBreak .returnFeed later, nofun, fun _ => head⟩
      · rename_i isNoFeed
        have noFeed := reads.noFeed (Bool.not_eq_true _ ▸ isNoFeed)
        exact ⟨.of_isBreak (.plainReturn noFeed) reads.lines, nofun, fun _ => head⟩
    · rename_i notReturn
      exact ⟨reads.lines.cons ⟨notFeed, notReturn⟩, nofun, fun _ => head⟩

theorem reads_foldr (text : List Char) : Reads (text.foldr push empty) text := by
  induction text with
  | nil => exact reads_empty
  | cons character text inductionHypothesis => exact inductionHypothesis.push character

/-- A break leaves an empty line before the lines after it. -/
theorem Reads.line_foldr
    {state : SplitState}
    {mark rest : List Char}
    (reads : state.Reads rest)
    (isBreak : IsBreak mark rest) :
    (mark.foldr SplitState.push state).line = [] ∧
      (mark.foldr SplitState.push state).rest = state.lines := by
  cases isBreak with
  | feed => simp [SplitState.push, SplitState.lines]
  | plainReturn noFeed =>
      have isNoFeed : state.feed = false := Bool.eq_false_iff.mpr fun isFeed => by
        obtain ⟨later, rfl, -⟩ := reads.feed isFeed
        exact noFeed rfl
      simp [SplitState.push, SplitState.lines, isNoFeed]
  | returnFeed => simp [SplitState.push, SplitState.lines]

end SplitState

/-- A break ends the line before it and starts the lines after it. -/
theorem splitLines_append_append
    {line mark rest : List Char}
    (unbroken : IsUnbroken line)
    (isBreak : IsBreak mark rest) :
    splitLines (line ++ (mark ++ rest)) = line :: splitLines rest := by
  obtain ⟨first, later⟩ := (SplitState.reads_foldr rest).line_foldr isBreak
  rw [splitLines, List.foldr_append, SplitState.lines_foldr_push unbroken, List.foldr_append,
    first, later, List.append_nil, splitLines]

/-- A text has one cut, which is the one that is made. -/
theorem cut_iff
    {text : List Char}
    {lines : List (List Char)} :
    Cut text lines ↔ splitLines text = lines := by
  constructor
  · intro cut
    induction cut with
    | last unbroken => exact splitLines_of_isUnbroken unbroken
    | line unbroken isBreak later inductionHypothesis =>
        rw [splitLines_append_append unbroken isBreak, inductionHypothesis]
  · rintro rfl
    exact (SplitState.reads_foldr text).lines

/-! ## Lines that are put together -/

/-- No line feed comes first where carriage returns stand between lines without breaks. -/
theorem head?_intercalate_return
    {lines : List (List Char)}
    (unbroken : ∀ line ∈ lines, IsUnbroken line) :
    (['\r'].intercalate lines).head? ≠ some '\n' := by
  cases lines with
  | nil => simp
  | cons line rest =>
      have noFeed : line.head? ≠ some '\n' := fun feed =>
        (unbroken line List.mem_cons_self).1 (List.mem_of_head? feed)
      cases rest with
      | nil => simpa using noFeed
      | cons next rest =>
          rw [List.intercalate_cons_cons]
          cases line with
          | nil => simp
          | cons character line => simpa using noFeed

/-- A line feed, a carriage return with a line feed, and a carriage return alone are breaks before
lines that are put together with them. -/
theorem isBreak_intercalate
    {mark : List Char}
    (among : mark ∈ [['\n'], ['\r', '\n'], ['\r']])
    {lines : List (List Char)}
    (unbroken : ∀ line ∈ lines, IsUnbroken line) :
    IsBreak mark (mark.intercalate lines) := by
  simp only [List.mem_cons, List.not_mem_nil, or_false] at among
  rcases among with rfl | rfl | rfl
  · exact .feed
  · exact .returnFeed
  · exact .plainReturn (head?_intercalate_return unbroken)

/-- Lines without breaks are cut apart again, whichever break they were put together with. -/
theorem cut_intercalate
    {mark : List Char}
    (among : mark ∈ [['\n'], ['\r', '\n'], ['\r']])
    {lines : List (List Char)}
    (nonempty : lines ≠ [])
    (unbroken : ∀ line ∈ lines, IsUnbroken line) :
    Cut (mark.intercalate lines) lines := by
  induction lines with
  | nil => exact absurd rfl nonempty
  | cons line rest inductionHypothesis =>
      obtain ⟨first, later⟩ := List.forall_mem_cons.mp unbroken
      cases rest with
      | nil => simpa using Cut.last first
      | cons next rest =>
          rw [List.intercalate_cons_cons, List.append_assoc]
          exact .line first (isBreak_intercalate among later)
            (inductionHypothesis (List.cons_ne_nil _ _) later)

theorem splitLines_intercalate
    {lines : List (List Char)}
    (nonempty : lines ≠ [])
    (unbroken : ∀ line ∈ lines, IsUnbroken line) :
    splitLines (['\n'].intercalate lines) = lines :=
  cut_iff.mp (cut_intercalate List.mem_cons_self nonempty unbroken)

/-! ## Unified breaks -/

/-- Characters that break no line are kept. -/
theorem unifyFrom_append
    {line : List Char}
    (unbroken : IsUnbroken line)
    (result rest : List Char) :
    unifyFrom result (line ++ rest) = unifyFrom (line.reverse ++ result) rest := by
  induction line generalizing result with
  | nil => rfl
  | cons character line inductionHypothesis =>
      obtain ⟨⟨noFeed, noReturn⟩, later⟩ := (isUnbroken_cons_iff character line).mp unbroken
      rw [List.cons_append, unifyFrom, inductionHypothesis later]
      · simp
      · simp [noReturn]
      · simp [noReturn]

/-- A break becomes a line feed. -/
theorem unifyFrom_mark
    {mark rest : List Char}
    (isBreak : IsBreak mark rest)
    (result : List Char) :
    unifyFrom result (mark ++ rest) = unifyFrom ('\n' :: result) rest := by
  cases isBreak with
  | feed => rw [List.singleton_append, unifyFrom] <;> simp
  | plainReturn noFeed =>
      rw [List.singleton_append, unifyFrom]
      rintro later rfl
      exact noFeed rfl
  | returnFeed => rw [List.cons_append, List.singleton_append, unifyFrom]

theorem unifyFrom_of_cut
    {text : List Char}
    {lines : List (List Char)}
    (cut : Cut text lines)
    (result : List Char) :
    unifyFrom result text = result.reverse ++ ['\n'].intercalate lines := by
  induction cut generalizing result with
  | last unbroken =>
      have kept := unifyFrom_append unbroken result []
      rw [List.append_nil] at kept
      rw [kept, unifyFrom, List.reverse_append, List.reverse_reverse]
      simp
  | @line line mark rest lines unbroken isBreak later inductionHypothesis =>
      obtain ⟨next, lines, rfl⟩ : ∃ next more, lines = next :: more :=
        List.exists_cons_of_ne_nil (cut_iff.mp later ▸ splitLines_ne_nil rest)
      rw [unifyFrom_append unbroken, unifyFrom_mark isBreak, inductionHypothesis,
        List.intercalate_cons_cons]
      simp

/-- Unified breaks are line feeds between the lines of a text. -/
theorem unifyBreaks_eq_intercalate (text : List Char) :
    unifyBreaks text = ['\n'].intercalate (splitLines text) :=
  unifyFrom_of_cut (cut_iff.mpr rfl) []

/-- A text with unified breaks has the lines of the text itself. -/
theorem splitLines_unifyBreaks (text : List Char) :
    splitLines (unifyBreaks text) = splitLines text := by
  rw [unifyBreaks_eq_intercalate]
  exact splitLines_intercalate (splitLines_ne_nil text)
    fun _ present => isUnbroken_of_mem_splitLines present

end Text
end Snippets
