import Snippets.Proofs.Execution.Watching

/-!
# Steps that let code run

A run has one step at most that lets code of its block run: a command is run on a temporary file,
or a text is written to a shell.  The status of a run is what a command answered, so a run in a
session has none.
-/

namespace Snippets

/-! ## Steps that let code run -/

/-- Whether a step lets code of a block run. -/
def HostStep.isExecution : HostStep → Bool
  | .runCommand _ _ _ => true
  | .writeShell _ _ _ => true
  | _ => false

theorem HostStep.IsQuiet.isExecution_eq_false
    {step : HostStep}
    (quiet : step.IsQuiet) :
    step.isExecution = false := by
  cases step <;> first | rfl | exact quiet.elim

theorem countP_isExecution_of_isQuiet
    {steps : List HostStep}
    (quiet : ∀ step ∈ steps, step.IsQuiet) :
    steps.countP HostStep.isExecution = 0 :=
  List.countP_eq_zero.mpr fun step present =>
    Bool.eq_false_iff.mp (quiet step present).isExecution_eq_false

namespace Session

/-- Sending a text is one step that lets code run. -/
theorem Sends.countP_isExecution_le
    {session session' : Session}
    {text : String}
    {steps : List HostStep}
    {answer : Except SendFailure Unit}
    (sends : session.Sends text steps answer session') :
    steps.countP HostStep.isExecution ≤ 1 := by
  cases sends with
  | written ensures =>
      rw [List.countP_append, countP_isExecution_of_isQuiet ensures.isQuiet]
      exact Nat.le_refl 1
  | failed ensures =>
      rw [countP_isExecution_of_isQuiet ensures.isQuiet]
      exact Nat.zero_le 1

end Session

namespace Executor

theorem countP_isExecution_tidying (path : String) (answer : Except SendFailure Unit) :
    (tidying path answer).countP HostStep.isExecution = 0 := by
  match answer with
  | .ok () => rfl
  | .error (.other failure) => rfl
  | .error (.shellMissing name) => rfl
  | .error (.shellGone reason) => rfl

theorem SendsBlock.countP_isExecution_le
    {runner : Runner}
    {block : Block}
    {session session' : Session}
    {steps : List HostStep}
    {result : Except RunFailure RunResult}
    (sends : SendsBlock runner block session steps result session') :
    steps.countP HostStep.isExecution ≤ 1 := by
  cases sends with
  | text isShell sends => exact sends.countP_isExecution_le
  | noFile isOther => exact Nat.zero_le 1
  | @file path steps answer session' isOther sends =>
      rw [List.countP_append, List.countP_append, countP_isExecution_tidying, Nat.add_zero]
      exact (Nat.zero_add _).symm ▸ sends.countP_isExecution_le

/-- A run in a session has one step at most that lets code run. -/
theorem Runs.countP_isExecution_le
    {runners : Registry}
    {session session' : Session}
    {block : Block}
    {steps : List HostStep}
    {result : Except RunFailure RunResult}
    (runs : Runs runners session block steps result session') :
    steps.countP HostStep.isExecution ≤ 1 := by
  cases runs with
  | refused held => exact Nat.zero_le 1
  | noRunner admits missing =>
      rw [countP_isExecution_of_isQuiet admits.isQuiet]
      exact Nat.zero_le 1
  | sent admits found sends =>
      rw [List.countP_append, countP_isExecution_of_isQuiet admits.isQuiet, Nat.zero_add]
      exact sends.countP_isExecution_le

/-- The steps by which an executor with the given runners runs a block in a process of its own,
and the result. -/
inductive RunsFile (runners : Registry) (limit : Option Seconds) (block : Block) :
    List HostStep → Except RunFailure RunResult → Prop
  /-- There is no runner for the block. -/
  | noRunner (missing : runners.get? block.language = none) :
      RunsFile runners limit block [] (.error (.noRunner block.language runners.languages))
  /-- There is no temporary file for the block. -/
  | noFile
      {runner : Runner}
      {failure : HostFailure}
      (found : runners.get? block.language = some runner) :
      RunsFile runners limit block
        [.createFile runner.ext (fileContent block.code) (.error failure)]
        (.error (.host failure))
  /-- The command of the runner is run on a temporary file, which is removed afterwards. -/
  | command
      {runner : Runner}
      {path : String}
      {answer : Except CommandFailure Int}
      (found : runners.get? block.language = some runner) :
      RunsFile runners limit block
        [.createFile runner.ext (fileContent block.code) (.ok path),
         .runCommand (runner.render path) limit answer,
         .removeFile path, .removeFile (artifact path)]
        (resultOf limit (runner.render path) answer)

theorem RunsFile.countP_isExecution_le
    {runners : Registry}
    {limit : Option Seconds}
    {block : Block}
    {steps : List HostStep}
    {result : Except RunFailure RunResult}
    (runs : RunsFile runners limit block steps result) :
    steps.countP HostStep.isExecution ≤ 1 := by
  cases runs with
  | noRunner missing => exact Nat.zero_le 1
  | noFile found => exact Nat.zero_le 1
  | command found => exact Nat.le_refl 1

section

variable {State : Type} {host : Host State} {passes : State → State → Prop}
  {pass : Nat → State → State} (passing : ∀ number state, passes state (pass number state))

include passing

end

end Executor

end Snippets
