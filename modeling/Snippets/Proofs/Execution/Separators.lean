import Snippets.Proofs.Execution.Deliveries

/-!
# Semicolons after commands

A session is sent the command of a runner, a semicolon and the removal of its file.  A shell takes
a semicolon only after a command: none may start a line, and none may follow an ampersand.  The
main statement is that it is the end of the runner that decides, which is the extension and what
follows the last placeholder; being accepted does not.
-/

namespace Snippets

open Executor (sessionCommand fileContent tidying)

namespace Runner

/-- The last character of a text that is no space and no tab. -/
def lastSolid? (text : List Char) : Option Char :=
  text.reverse.find? fun character => character != ' ' && character != '\t'

/-- Whether a semicolon may follow a text: on the same line a character stands before it, blanks
aside, and the last one is no ampersand. -/
def TakesSemicolon (text : String) : Prop :=
  ∃ character, lastSolid? text.toList = some character ∧ character ≠ '\n' ∧ character ≠ '&'

instance (text : String) : Decidable (TakesSemicolon text) :=
  decidable_of_iff
    ((lastSolid? text.toList).any fun character => character != '\n' && character != '&')
    (by simp [TakesSemicolon, Option.any_eq_true])

/-- What follows the last placeholder of a runner. -/
def tail (runner : Runner) : String :=
  String.ofList ((pieces runner.command).getLastD [])

/-- A semicolon may follow a text if it ends in blanks and a character before them that neither
ends a line nor is an ampersand. -/
theorem takesSemicolon_iff {text : String} :
    TakesSemicolon text ↔
      ∃ front character blanks,
        text.toList = front ++ character :: blanks ∧
        (∀ blank ∈ blanks, blank = ' ' ∨ blank = '\t') ∧
        character ∉ [' ', '\t', '\n', '&'] := by
  unfold TakesSemicolon lastSolid?
  constructor
  · rintro ⟨character, found, noBreak, noAmpersand⟩
    obtain ⟨solid, blanks, front, reversed, skipped⟩ := List.find?_eq_some_iff_append.mp found
    refine ⟨front.reverse, character, blanks.reverse, ?_, fun blank present => ?_, ?_⟩
    · simpa using congrArg List.reverse reversed
    · have isBlank := skipped blank (List.mem_reverse.mp present)
      grind
    · simp_all
  · rintro ⟨front, character, blanks, same, areBlank, notAmong⟩
    simp only [List.mem_cons, List.not_mem_nil, or_false, not_or] at notAmong
    obtain ⟨noSpace, noTab, noBreak, noAmpersand⟩ := notAmong
    refine ⟨character, ?_, noBreak, noAmpersand⟩
    refine List.find?_eq_some_iff_append.mpr
      ⟨by simp [noSpace, noTab], blanks.reverse, front.reverse, by simp [same], ?_⟩
    intro blank present
    rcases areBlank blank (List.mem_reverse.mp present) with rfl | rfl <;> decide

/-- What stands before a character that is no blank does not matter. -/
theorem lastSolid?_append_cons
    {character : Char}
    (solid : character ≠ ' ' ∧ character ≠ '\t')
    (front back : List Char) :
    lastSolid? (front ++ character :: back) = lastSolid? (character :: back) := by
  simp [lastSolid?, solid]

/-- A path that is put between pieces stands before the last of them. -/
theorem exists_intercalate_eq
    (path first second : List Char)
    (rest : List (List Char)) :
    ∃ front, path.intercalate (first :: second :: rest) =
      front ++ path ++ (second :: rest).getLastD [] := by
  induction rest generalizing first second with
  | nil => exact ⟨first, by simp⟩
  | cons third rest inductionHypothesis =>
      obtain ⟨front, same⟩ := inductionHypothesis second third
      refine ⟨first ++ path ++ front, ?_⟩
      rw [List.intercalate_cons_cons, same]
      simp only [List.append_assoc, List.getLastD_cons]

theorem exists_toList_render
    {runner : Runner}
    (has : hasPlaceholder runner.command = true)
    (path : String) :
    ∃ front, (runner.render path).toList = front ++ path.toList ++ runner.tail.toList := by
  rw [hasPlaceholder, decide_eq_true_iff] at has
  rw [render, tail, String.toList_ofList, String.toList_ofList]
  rcases found : pieces runner.command with _ | ⟨first, _ | ⟨second, rest⟩⟩
  · simp [found] at has
  · simp [found] at has
  · rw [List.getLastD_cons]
    exact exists_intercalate_eq path.toList first second rest

/-- Whether a semicolon may follow the command of an accepted runner on a path with its extension
depends on the extension and on what follows the last placeholder. -/
theorem takesSemicolon_render_iff
    {value : Datum}
    {runner : Runner}
    (accepted : check value = .ok runner)
    (stem : String) :
    TakesSemicolon (runner.render (stem ++ runner.ext)) ↔
      TakesSemicolon (runner.ext ++ runner.tail) := by
  obtain ⟨dot, -⟩ := isExtension_iff.mp (isExtension_of_check accepted)
  obtain ⟨rest, begins⟩ := List.head?_eq_some_iff.mp dot
  obtain ⟨front, rendered⟩ :=
    exists_toList_render (hasPlaceholder_of_check accepted) (stem ++ runner.ext)
  have split : (runner.render (stem ++ runner.ext)).toList =
      (front ++ stem.toList) ++ '.' :: (rest ++ runner.tail.toList) := by
    simp [rendered, begins]
  have same : (runner.ext ++ runner.tail).toList = '.' :: (rest ++ runner.tail.toList) := by
    simp [begins]
  rw [TakesSemicolon, TakesSemicolon, split, same, lastSolid?_append_cons (by decide)]

/-- A semicolon may follow all commands of the runners that are built in. -/
theorem takesSemicolon_builtin :
    ∀ entry ∈ Registry.builtin.entries, TakesSemicolon (entry.2.ext ++ entry.2.tail) := by
  decide +kernel

end Runner

/-! ## Texts that are sent -/

/-- Whether the path of a temporary file ends in its extension. -/
def Host.KeepsExtensions {State : Type} (host : Host State) : Prop :=
  ∀ ext content path before after,
    host.createFile ext content before = (.ok path, after) → ∃ stem, path = stem ++ ext

theorem Machine.keepsExtensions : Machine.host.KeepsExtensions := by
  intro ext content path before after created
  obtain ⟨number, names, rfl, -⟩ := Machine.createFile_ok created
  exact ⟨_, rfl⟩

section

variable
    {State : Type}
    {host : Host State}
    {passes : State → State → Prop}
    {session session' : Session}
    {steps : List HostStep}
    {shell : Nat}
    {text : String}
    {answer : Except String Unit}

theorem Session.Sends.text_eq
    {asked : String}
    {outcome : Except SendFailure Unit}
    (sends : session.Sends asked steps outcome session')
    (present : .writeShell shell text answer ∈ steps) :
    text = asked := by
  cases sends with
  | failed ensures => exact (ensures.isQuiet _ present).elim
  | written ensures =>
      rcases List.mem_append.mp present with asks | writes
      · exact (ensures.isQuiet _ asks).elim
      · cases List.mem_singleton.mp writes
        rfl

namespace Executor

/-- What a run writes for a block that is no script is a command on the file that it has made. -/
theorem Runs.text_eq
    {runners : Registry}
    {block : Block}
    {result : Except RunFailure RunResult}
    (isOther : block.language ≠ Language.shellscript)
    (runs : Runs runners session block steps result session')
    (present : .writeShell shell text answer ∈ steps) :
    ∃ runner path,
      runners.get? block.language = some runner ∧
      .createFile runner.ext (fileContent block.code) (.ok path) ∈ steps ∧
      text = sessionCommand runner path := by
  obtain ⟨runner, rest, found, sends, isLast, present⟩ := runs.sends_of_mem present not_false
  cases sends with
  | text isShell sends => exact absurd isShell isOther
  | noFile isOther => simp at present
  | @file path sending outcome _ isOther sends =>
      refine ⟨runner, path, found, isLast.subset (by simp), ?_⟩
      rcases List.mem_append.mp present with present | tidies
      · rcases List.mem_cons.mp present with first | later
        · cases first
        · exact sends.text_eq later
      · obtain ⟨other, same⟩ := mem_tidying tidies
        cases same

/-- A run on an executor in shell mode takes the steps of a run, and none if it is closed. -/
theorem exists_runs_of_mem
    {executor : Executor}
    (engine : executor.engine = .shell session)
    {block : Block}
    {pass : Nat → State → State}
    {start moment : State}
    {step : HostStep}
    (present : (moment, step) ∈
      (executor.run (host.watched pass) block (.start start)).2.2.steps) :
    ∃ steps result session' watched,
      Watched.Goes host (Turn.Brings ⟨block, pass⟩) (.start start) steps watched ∧
      Runs executor.runners session block steps result session' ∧ step ∈ steps := by
  cases isOpen : executor.closed with
  | true =>
      have closed : executor.isClosed (host.watched pass) (.start start) =
          (true, .start start) := by
        simp [isClosed, isOpen]
      rw [run_of_isClosed (congrArg Prod.fst closed), closed] at present
      cases present
  | false =>
      have brings (number : Nat) (state : State) :
          Turn.Brings ⟨block, pass⟩ state (pass number state) := ⟨number, rfl⟩
      obtain ⟨steps, session', goes, runs, -⟩ :=
        isWatched_run brings isOpen engine block (.start start)
      refine ⟨steps, _, session', _, goes, runs, ?_⟩
      rw [← goes.map_steps]
      exact List.mem_map.mpr ⟨_, present, rfl⟩

/-- The text of a block that is no script has a semicolon after the command of its runner, which
may stand there exactly if it may follow the extension and what follows the last placeholder. -/
theorem takesSemicolon_of_run
    (names : host.KeepsExtensions)
    {executor : Executor}
    (isShell : executor.mode = .shell)
    {block : Block}
    (isOther : block.language ≠ Language.shellscript)
    {runner : Runner}
    (found : executor.runners.get? block.language = some runner)
    {value : Datum}
    (accepted : Runner.check value = .ok runner)
    (pass : Nat → State → State)
    (start moment : State)
    (sent : (moment, .writeShell shell text answer) ∈
      (executor.run (host.watched pass) block (.start start)).2.2.steps) :
    ∃ path,
      text = "\x7b " ++ runner.render path ++
        "; rm -f \"" ++ path ++ "\" \"" ++ path ++ ".out" ++ "\"" ++ "\n\x7d\n" ∧
      (Runner.TakesSemicolon (runner.render path) ↔
        Runner.TakesSemicolon (runner.ext ++ runner.tail)) := by
  obtain ⟨session, engine⟩ := exists_session isShell
  obtain ⟨steps, result, session', watched, goes, runs, present⟩ := exists_runs_of_mem engine sent
  obtain ⟨runner', path, foundToo, makes, same⟩ := runs.text_eq isOther present
  cases Option.some.inj (found.symm.trans foundToo)
  obtain ⟨before, after, created⟩ := goes.exists_takes makes
  obtain ⟨stem, rfl⟩ := names _ _ _ _ _ created
  refine ⟨stem ++ runner.ext, ?_, Runner.takesSemicolon_render_iff accepted stem⟩
  simp only [same, sessionCommand, compound, artifact, String.append_assoc]

end Executor
end

/-! ## Two runners of notes -/

namespace Machine

/-- The statement on semicolons, for a note whose runner may be followed by one. -/
theorem takesSemicolon_note :
    host.KeepsExtensions ∧
    (mixedExecutor (some 0)).mode = .shell ∧
    note.language ≠ Language.shellscript ∧
    (mixedExecutor (some 0)).runners.get? note.language = some noteRunner ∧
    Runner.check noteRunner.datum = .ok noteRunner ∧
    (furnishedNote [reader (Shell.ofText scriptText)], .writeShell 0 noteText (.ok ())) ∈
      ((mixedExecutor (some 0)).run (host.watched fun _ machine => machine) note
        (.start (furnished [reader (Shell.ofText scriptText)]))).2.2.steps ∧
    Runner.TakesSemicolon (noteRunner.ext ++ noteRunner.tail) ∧
    ∃ path,
      noteText = "\x7b " ++ noteRunner.render path ++
        "; rm -f \"" ++ path ++ "\" \"" ++ path ++ ".out" ++ "\"" ++ "\n\x7d\n" ∧
      Runner.TakesSemicolon (noteRunner.render path) := by
  have isOther : note.language ≠ Language.shellscript := by decide
  have found : (mixedExecutor (some 0)).runners.get? note.language = some noteRunner := by
    decide
  have accepted : Runner.check noteRunner.datum = .ok noteRunner := by decide
  have sent : (furnishedNote [reader (Shell.ofText scriptText)],
      .writeShell 0 noteText (.ok ())) ∈
      ((mixedExecutor (some 0)).run (host.watched fun _ machine => machine) note
        (.start (furnished [reader (Shell.ofText scriptText)]))).2.2.steps := by
    simp [run_note, noteSteps]
  have takes : Runner.TakesSemicolon (noteRunner.ext ++ noteRunner.tail) := by decide
  obtain ⟨path, same, decides⟩ := Executor.takesSemicolon_of_run keepsExtensions rfl isOther found
    accepted _ _ _ sent
  exact ⟨keepsExtensions, rfl, isOther, found, accepted, sent, takes, path, same,
    decides.mpr takes⟩

/-- A runner of notes whose command ends in a line feed. -/
def lineRunner : Runner :=
  ⟨"cat \"\x7bfile\x7d\"\n", ".txt"⟩

/-- Whether something is wrong where a command is read. -/
def isWrong : Shell.Script.Next → Bool
  | .wrong => true
  | .finished | .command .. => false

theorem isWrong_iff {next : Shell.Script.Next} : isWrong next = true ↔ next = .wrong := by
  cases next <;> simp [isWrong]

/-- That runner is accepted, and its command is one that a shell can read.  What a session is sent
is no script, as the semicolon starts a line. -/
theorem not_takesSemicolon_line :
    Runner.check lineRunner.datum = .ok lineRunner ∧
    ¬Runner.TakesSemicolon (lineRunner.render notePath) ∧
    Shell.Script.next ⟨.plain, 0, [], false⟩ (Shell.ofText (lineRunner.render notePath)) ≠
      .wrong ∧
    Shell.Script.next ⟨.bash, 0, [], false⟩
      (Shell.ofText (sessionCommand lineRunner notePath)) = .wrong := by
  have reads : ¬isWrong (Shell.Script.next ⟨.plain, 0, [], false⟩
      (Shell.ofText (lineRunner.render notePath))) = true := by
    decide +kernel
  have fails : isWrong (Shell.Script.next ⟨.bash, 0, [], false⟩
      (Shell.ofText (sessionCommand lineRunner notePath))) = true := by
    -- The parts of the text are short enough to be evaluated.
    simp only [sessionCommand, Executor.compound, Executor.artifact, Shell.ofText_append]
    decide +kernel
  exact ⟨by decide, by decide, isWrong_iff.not.mp reads, isWrong_iff.mp fails⟩

end Machine
end Snippets
