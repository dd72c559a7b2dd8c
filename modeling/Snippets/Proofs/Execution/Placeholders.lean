import Snippets.Proofs.Config.Runners
import Snippets.Proofs.Execution.MachineFiles

/-!
# Placeholders that are filled in

The pieces of a template stand between its placeholders.  A placeholder starts with a brace that
occurs nowhere else in it, so two placeholders never overlap, and the pieces of a template are the
only ones without placeholders that can be put together to it.  The main statement says that
rendering puts the path in their place, and that none is left if the path is absolute and has no
opening brace: the slash at its start ends every placeholder that a piece may have begun, and none
can begin in the path.
-/

namespace Snippets
namespace Runner

/-! ## Where placeholders lie -/

/-- Whether no placeholder that starts before a text can go on in it: the text is empty, or its
first character does not occur in a placeholder after the brace. -/
def Interrupts (text : List Char) : Prop :=
  ∀ character, text.head? = some character → character ∉ placeholder.toList.tail

theorem interrupts_nil : Interrupts [] := by simp [Interrupts]

theorem interrupts_placeholder (rest : List Char) : Interrupts (placeholder.toList ++ rest) := by
  rintro character isFirst
  cases isFirst
  decide

theorem interrupts_slash (rest : List Char) : Interrupts ('/' :: rest) := by
  rintro character isFirst
  cases isFirst
  decide

theorem prefix_append_iff
    {character : Char}
    {front back : List Char}
    (interrupts : Interrupts back) :
    placeholder.toList <+: character :: front ++ back ↔
      placeholder.toList <+: character :: front := by
  refine ⟨fun begins => ?_, fun begins => begins.trans (List.prefix_append _ _)⟩
  rcases List.prefix_or_prefix_of_prefix begins (List.prefix_append (character :: front) back) with
    within | ⟨after, same⟩
  · exact within
  · -- What is left of the placeholder after the front would have to begin the back.
    rw [← same, List.prefix_append_right_inj] at begins
    cases after with
    | nil => exact ⟨[], by simpa using same.symm⟩
    | cons next after =>
        obtain ⟨rest, rfl⟩ := begins
        have later : next ∈ placeholder.toList.tail := by simp [← same]
        exact absurd later (interrupts next rfl)

theorem infix_append_iff_of_interrupts
    {front back : List Char}
    (interrupts : Interrupts back) :
    placeholder.toList <:+: front ++ back ↔
      placeholder.toList <:+: front ∨ placeholder.toList <:+: back := by
  induction front with
  | nil => simp [placeholder]
  | cons character front inductionHypothesis =>
      rw [List.cons_append, List.infix_cons_iff, List.infix_cons_iff, inductionHypothesis,
        ← List.cons_append, prefix_append_iff interrupts, or_assoc]

/-- No placeholder starts in a text without braces. -/
theorem infix_append_iff_of_not_mem
    {front : List Char}
    (noBrace : '\x7b' ∉ front)
    (back : List Char) :
    placeholder.toList <:+: front ++ back ↔ placeholder.toList <:+: back := by
  induction front with
  | nil => rw [List.nil_append]
  | cons character front inductionHypothesis =>
      obtain ⟨differs, later⟩ := not_or.mp (List.mem_cons.not.mp noBrace)
      rw [List.cons_append, List.infix_cons_iff, inductionHypothesis later]
      refine or_iff_right ?_
      rintro ⟨rest, same⟩
      exact differs (List.cons.inj same).1

/-- The first placeholder of a text stands after a part without placeholders. -/
theorem exists_first_placeholder
    {text : List Char}
    (has : placeholder.toList <:+: text) :
    ∃ front rest, text = front ++ (placeholder.toList ++ rest) ∧
      ¬placeholder.toList <:+: front := by
  induction text with
  | nil => simp [placeholder] at has
  | cons character text inductionHypothesis =>
      by_cases here : placeholder.toList <+: character :: text
      · obtain ⟨rest, same⟩ := here
        exact ⟨[], rest, same.symm, by simp [placeholder]⟩
      · obtain ⟨front, rest, rfl, free⟩ :=
          inductionHypothesis ((List.infix_cons_iff.mp has).resolve_left here)
        refine ⟨character :: front, rest, rfl, fun within => ?_⟩
        rw [← List.cons_append, prefix_append_iff (interrupts_placeholder rest)] at here
        exact (List.infix_cons_iff.mp within).elim here free

/-! ## Pieces -/

/-- Whether a template consists of pieces without placeholders and of placeholders between
them. -/
structure IsSplit (template : List Char) (pieces : List (List Char)) : Prop where
  /-- Put together with placeholders, the pieces are the template. -/
  joined : placeholder.toList.intercalate pieces = template
  /-- No piece holds a placeholder. -/
  free : ∀ piece ∈ pieces, ¬placeholder.toList <:+: piece

theorem piecesFrom_append
    {front rest : List Char}
    (free : ¬placeholder.toList <:+: front)
    (interrupts : Interrupts rest)
    (piece : List Char)
    (found : List (List Char)) :
    piecesFrom piece found (front ++ rest) = piecesFrom (front.reverse ++ piece) found rest := by
  induction front generalizing piece with
  | nil => rfl
  | cons character front inductionHypothesis =>
      obtain ⟨notHere, notLater⟩ := not_or.mp (List.infix_cons_iff.not.mp free)
      rw [← prefix_append_iff interrupts] at notHere
      rw [List.cons_append, piecesFrom, inductionHypothesis notLater]
      · simp
      · rintro after rfl same
        exact notHere ⟨after, by rw [List.cons_append, same]; rfl⟩

/-- Pieces without placeholders are found again where they were put together. -/
theorem piecesFrom_intercalate
    {pieces : List (List Char)}
    (nonempty : pieces ≠ [])
    (free : ∀ piece ∈ pieces, ¬placeholder.toList <:+: piece)
    (found : List (List Char)) :
    piecesFrom [] found (placeholder.toList.intercalate pieces) = found.reverse ++ pieces := by
  induction pieces generalizing found with
  | nil => exact absurd rfl nonempty
  | cons piece pieces inductionHypothesis =>
      obtain ⟨first, later⟩ := List.forall_mem_cons.mp free
      cases pieces with
      | nil =>
          have only := piecesFrom_append first interrupts_nil [] found
          rw [List.append_nil, List.append_nil] at only
          rw [List.intercalate_singleton, only, piecesFrom]
          simp
      | cons next pieces =>
          have step (rest : List Char) :
              piecesFrom piece.reverse found (placeholder.toList ++ rest) =
                piecesFrom [] (piece.reverse.reverse :: found) rest := rfl
          rw [List.intercalate_cons_cons, List.append_assoc,
            piecesFrom_append first (interrupts_placeholder _), List.append_nil, step,
            inductionHypothesis (List.cons_ne_nil _ _) later]
          simp

/-- Every text can be split at its placeholders. -/
theorem exists_isSplit (text : List Char) : ∃ pieces, pieces ≠ [] ∧ IsSplit text pieces := by
  by_cases has : placeholder.toList <:+: text
  · obtain ⟨front, rest, rfl, free⟩ := exists_first_placeholder has
    have shorter : rest.length < (front ++ (placeholder.toList ++ rest)).length := by
      have notEmpty : 0 < placeholder.toList.length := by decide
      simp only [List.length_append]
      omega
    obtain ⟨pieces, nonempty, rfl, later⟩ := exists_isSplit rest
    obtain ⟨next, pieces, rfl⟩ := List.exists_cons_of_ne_nil nonempty
    refine ⟨front :: next :: pieces, List.cons_ne_nil _ _, ?_, ?_⟩
    · rw [List.intercalate_cons_cons, List.append_assoc]
    · exact List.forall_mem_cons.mpr ⟨free, later⟩
  · exact ⟨[text], List.cons_ne_nil _ _, List.intercalate_singleton, by simpa using has⟩
termination_by text.length

/-- The pieces of a template are the only ones without placeholders that it consists of. -/
theorem isSplit_pieces_iff
    {template : String}
    {pieces : List (List Char)}
    (nonempty : pieces ≠ []) :
    IsSplit template.toList pieces ↔ Runner.pieces template = pieces := by
  have found {others : List (List Char)} (notNone : others ≠ [])
      (split : IsSplit template.toList others) : Runner.pieces template = others := by
    rw [Runner.pieces, ← split.joined, piecesFrom_intercalate notNone split.free,
      List.reverse_nil, List.nil_append]
  refine ⟨found nonempty, ?_⟩
  rintro rfl
  obtain ⟨others, notNone, split⟩ := exists_isSplit template.toList
  rwa [found notNone split]

/-- No placeholder is left where an absolute path without braces is put between pieces without
placeholders. -/
theorem not_infix_intercalate
    {path : List Char}
    (slash : path.head? = some '/')
    (noBrace : '\x7b' ∉ path)
    {pieces : List (List Char)}
    (free : ∀ piece ∈ pieces, ¬placeholder.toList <:+: piece) :
    ¬placeholder.toList <:+: path.intercalate pieces := by
  obtain ⟨names, rfl⟩ := List.head?_eq_some_iff.mp slash
  induction pieces with
  | nil => simp [placeholder]
  | cons piece pieces inductionHypothesis =>
      obtain ⟨first, later⟩ := List.forall_mem_cons.mp free
      cases pieces with
      | nil => rwa [List.intercalate_singleton]
      | cons next pieces =>
          have interrupts (rest : List Char) : Interrupts ('/' :: names ++ rest) :=
            interrupts_slash _
          rw [List.intercalate_cons_cons, List.append_assoc,
            infix_append_iff_of_interrupts (interrupts _), infix_append_iff_of_not_mem noBrace]
          exact not_or.mpr ⟨first, inductionHypothesis later⟩

/-- Temporary files have absolute paths without braces if their directory has and their extension
has no brace. -/
theorem noBrace_of_isTemporary
    {machine : Machine}
    {ext path : String}
    (isTemporary : machine.IsTemporary ext path)
    (slash : machine.temporary.toList.head? = some '/')
    (noBrace : '\x7b' ∉ machine.temporary.toList)
    (noBraceExt : '\x7b' ∉ ext.toList) :
    path.toList.head? = some '/' ∧ '\x7b' ∉ path.toList := by
  obtain ⟨digits, areDigits, rfl⟩ := isTemporary
  have noBraceDigits : '\x7b' ∉ digits := fun present => absurd (areDigits _ present) (by decide)
  obtain ⟨names, begins⟩ := List.head?_eq_some_iff.mp slash
  constructor
  · simp [begins]
  · simp [noBrace, noBraceDigits, noBraceExt]

/-- The command of an accepted runner consists of pieces without placeholders, in one way, and
there are at least two of them.  Its rendering has the path between these pieces.  No placeholder
is left in it if the path is absolute and has no opening brace, as is the case for all temporary
files in such a directory with such an extension. -/
theorem render_between_pieces
    {value : Datum}
    {runner : Runner}
    (accepted : check value = .ok runner) :
    ∃ pieces : List (List Char),
      2 ≤ pieces.length ∧
      (∀ others, IsSplit runner.command.toList others ↔ others = pieces) ∧
      (∀ path : String, (runner.render path).toList = path.toList.intercalate pieces) ∧
      (∀ path : String, path.toList.head? = some '/' → '\x7b' ∉ path.toList →
        ¬placeholder.toList <:+: (runner.render path).toList) ∧
      ∀ (machine started : Machine) (content path : String),
        machine.createFile runner.ext content = (.ok path, started) →
        machine.temporary.toList.head? = some '/' → '\x7b' ∉ machine.temporary.toList →
        '\x7b' ∉ runner.ext.toList →
        path.toList.head? = some '/' ∧ '\x7b' ∉ path.toList := by
  have has := hasPlaceholder_of_check accepted
  have several : 2 ≤ (pieces runner.command).length := of_decide_eq_true has
  have nonempty : pieces runner.command ≠ [] := List.ne_nil_of_length_pos (by omega)
  have split : IsSplit runner.command.toList (pieces runner.command) :=
    (isSplit_pieces_iff nonempty).mpr rfl
  have rendered (path : String) :
      (runner.render path).toList = path.toList.intercalate (pieces runner.command) :=
    String.toList_ofList
  refine ⟨pieces runner.command, several, fun others => ⟨fun isSplit => ?_, ?_⟩, rendered,
    fun path slash noBrace => ?_, fun machine started content path created slash => ?_⟩
  · refine ((isSplit_pieces_iff ?_).mp isSplit).symm
    rintro rfl
    exact absurd (hasPlaceholder_iff.mp has) (by simp [← isSplit.joined, placeholder])
  · rintro rfl
    exact split
  · rw [rendered]
    exact not_infix_intercalate slash noBrace split.free
  · exact noBrace_of_isTemporary (Machine.isTemporary_of_createFile created) slash

/-- The data of a runner whose command has braces around its placeholders, and a placeholder
within what would be another one. -/
def bracedDatum : Datum :=
  .mapping [(.text "command", .text "\x7bfil\x7bfile\x7de\x7d \x7b\x7bfile\x7d\x7d"),
    (.text "ext", .text ".k")]

/-- The statement on rendering, for a path between pieces that begin and end placeholders. -/
theorem render_between_pieces_braced :
    ∃ runner,
      check bracedDatum = .ok runner ∧
      (∀ others, IsSplit runner.command.toList others ↔
        others = ["\x7bfil".toList, "e\x7d \x7b".toList, "\x7d".toList]) ∧
      runner.render "/t/a.k" = "\x7bfil/t/a.ke\x7d \x7b/t/a.k\x7d" ∧
      ¬placeholder.toList <:+: (runner.render "/t/a.k").toList := by
  have accepted : check bracedDatum =
      .ok ⟨"\x7bfil\x7bfile\x7de\x7d \x7b\x7bfile\x7d\x7d", ".k"⟩ := by
    decide
  obtain ⟨pieces, -, unique, rendered, free, -⟩ := render_between_pieces accepted
  have same : pieces = ["\x7bfil".toList, "e\x7d \x7b".toList, "\x7d".toList] := by
    refine ((unique _).mp ⟨by decide, ?_⟩).symm
    decide
  refine ⟨_, accepted, same ▸ unique, ?_, free _ (by decide) (by decide)⟩
  rw [← String.toList_inj, rendered, same]
  decide

end Runner
end Snippets
