import Snippets.Proofs.CommandLine.Selection
import Snippets.Proofs.Execution.Executions

/-!
# Exit codes

A request to run is checked step by step: its selection, the configuration, the file, the
block.  The first check that fails decides the exit code, and then nothing has been done on the
host.  The main statement says so, and that otherwise the block is run once, with the exit code
of its outcome.  An outcome of its own is a run that the user interrupts.  A message whose markup
is wrong lets an exception escape instead of an exit code, and so does an executor that cannot be
closed, so the statement also says from which requests none does.
-/

namespace Snippets
namespace CommandLine

/-! ## Reports -/

namespace Report

end Report

theorem bracket_not_mem_durationText (microseconds : Nat) :
    '[' ∉ (durationText microseconds).toList := by
  simp only [durationText, Duration.textOfRatio]
  split
  · simp [Duration.tenthsText, bracket_not_mem_toDigits]
  · simp [Duration.minutesText, bracket_not_mem_toDigits]

theorem bracket_not_mem_repr (number : Int) : '[' ∉ number.repr.toList :=
  Number.not_mem_repr rfl (by decide) number

/-- What is reported on a run that ends is shown, and ends with the status. -/
theorem exists_resultReport (quiet : Bool) (microseconds : Nat) (result : RunResult) :
    ∃ lines, resultReport quiet microseconds result =
      ⟨lines, .exit (result.status.getD Report.success)⟩ := by
  obtain ⟨command, status⟩ := result
  cases status with
  | none => exact ⟨[], rfl⟩
  | some status =>
      unfold resultReport
      dsimp only
      split
      · cases quiet with
        | true => exact ⟨[], rfl⟩
        | false =>
            refine saying_of_not_mem .success ?_ status
            simp [bracket_not_mem_durationText]
      · refine saying_of_not_mem .warning ?_ status
        simp [bracket_not_mem_durationText, bracket_not_mem_repr]

namespace Refusal

/-- The exit code for a refusal, if it ends a command with one. -/
def code : Refusal → Int
  | selection | config _ => Report.wrongUse
  | _ => Report.failure

end Refusal

/-! ## Selections -/

namespace RunRequest

/-- Whether a request names its block in one way. -/
def NamesOne (request : RunRequest) : Prop :=
  request.line.isSome ≠ request.index.isSome

theorem NamesOne.cases
    {request : RunRequest}
    (single : request.NamesOne) :
    (∃ line, request.line = some line ∧ request.index = none) ∨
      ∃ index, request.line = none ∧ request.index = some index := by
  unfold NamesOne at single
  cases isLine : request.line with
  | none =>
      cases isIndex : request.index with
      | none => simp [isLine, isIndex] at single
      | some index => exact .inr ⟨index, rfl, rfl⟩
  | some line =>
      cases isIndex : request.index with
      | none => exact .inl ⟨line, rfl, rfl⟩
      | some index => simp [isLine, isIndex] at single

end RunRequest

theorem mem_of_selectBlock
    {blocks : List Block}
    {line index : Option Nat}
    {block : Block}
    (selected : selectBlock blocks line index = .ok block) :
    block ∈ blocks := by
  unfold selectBlock at selected
  split at selected
  · split at selected
    · rename_i found
      cases selected
      exact List.mem_of_find?_eq_some found
    · cases selected
  · split at selected
    · rename_i found
      cases selected
      exact List.mem_of_getElem? found
    · cases selected
  · cases selected

namespace Request

end Request

/-! ## Runs -/

/-- The number of the executor that is shared after a new one was closed or could not be. -/
def sharedAfter (config : Config) (number : Nat) : Except HostFailure Unit → Option Nat
  | .ok () => none
  | .error _ => if config.reuseExecutor then some number else none

/-- As long as no executor is shared, a block is run on a new executor of the configuration, which
is closed afterwards.  It stays the shared one only if its close fails. -/
theorem performIn_eq
    {State : Type}
    (host : Host State)
    (config : Config)
    (block : Block)
    {pool : Pool}
    (unshared : pool.shared = none)
    (state : State) :
    performIn host config block pool state =
      let (result, executor, after) := (Executor.ofConfig config).run host block state
      let (closed, executor, last) := executor.close host none after
      (.ran result closed,
        ⟨pool.executors ++ [executor], sharedAfter config pool.executors.length closed⟩, last) := by
  obtain ⟨executors, shared⟩ := pool
  subst unshared
  rcases ran : (Executor.ofConfig config).run host block state with ⟨result, executor, after⟩
  rcases closing : executor.close host none after with ⟨closed, executor', last⟩
  have replaced (first second : Executor) :
      (executors ++ [first]).set executors.length second = executors ++ [second] := by
    simp
  cases reuse : config.reuseExecutor with
  | false =>
      have acquired : (Pool.mk executors none).acquire host config state =
          (.ok executors.length, ⟨executors ++ [Executor.ofConfig config], none⟩, state) := by
        simp [Pool.acquire, reuse, Pool.add]
      cases closed <;>
        simp only [performIn, acquired, Pool.run, Pool.executor?, List.getElem?_concat_length, ran,
          reuse, Bool.false_eq_true, if_false, Pool.close, Pool.put, replaced, closing, sharedAfter]
  | true =>
      have acquired : (Pool.mk executors none).acquire host config state =
          (.ok executors.length,
            ⟨executors ++ [Executor.ofConfig config], some executors.length⟩, state) := by
        simp [Pool.acquire, reuse, Pool.share, Pool.add]
      cases closed <;>
        simp only [performIn, acquired, Pool.run, Pool.executor?, List.getElem?_concat_length, ran,
          reuse, if_true, Pool.closeShared, Pool.close, Pool.put, replaced, closing, sharedAfter]

section

variable {State : Type} (host : Host State) (passes : State → State → Prop)
  (pass : Nat → State → State) (passing : ∀ number state, passes state (pass number state))

include passing

end

/-! ## Endings -/

theorem mapError_eq_ok_iff
    {Cause Failure Value : Type}
    {outcome : Except Cause Value}
    {change : Cause → Failure}
    {value : Value} :
    outcome.mapError change = .ok value ↔ outcome = .ok value := by
  cases outcome <;> simp [Except.mapError]

/-- A file that cannot be opened is no target. -/
theorem target_of_not_opened
    {environment : Environment}
    {request : RunRequest}
    {refusal : Refusal}
    (single : request.NamesOne)
    (failed : openSubject environment request.subject = .error refusal) :
    target environment request = .error refusal := by
  have named : ¬request.line.isSome = request.index.isSome := single
  simp only [target, if_neg named, failed]
  rfl

section

variable {State : Type}

end

/-- A host on which every command ends with a status, and which has no shells. -/
def statusHost (status : Int) : Host Unit where
  createFile := fun _ _ state => (.ok "/tmp/a", state)
  removeFile := fun _ state => state
  runCommand := fun _ _ state => (.ok status, state)
  startShell := fun _ state => (.error .missing, state)
  isRunning := fun _ state => (false, state)
  writeShell := fun _ _ state => (.error "closed", state)
  endShell := fun _ _ state => (.ok (), state)

/-- Arguments that ask for a run of the first section of the shell script, and for nothing to be
said about it. -/
def scriptArguments : List String :=
  ["run", "--quiet", "--index=2", "a.sh"]

/-- The request that the arguments make. -/
def scriptRequest : RunRequest :=
  ⟨scriptSubject none, none, some 2, true⟩

/-- The first section of the shell script. -/
def scriptBlock : Block :=
  ⟨0, 0, "shellscript", "ls", 0⟩

theorem ofArguments?_script : Request.ofArguments? scriptArguments = some (.run scriptRequest) := by
  decide

theorem selectBlock_script :
    selectBlock scriptOpened.blocks scriptRequest.line scriptRequest.index = .ok scriptBlock := by
  decide

theorem namesOne_script : scriptRequest.NamesOne := by
  simp [RunRequest.NamesOne, scriptRequest]

theorem target_script : target scriptEnvironment scriptRequest = .ok (scriptOpened, scriptBlock) := by
  have opens : openSubject scriptEnvironment scriptRequest.subject = .ok scriptOpened :=
    openSubject_script
  have chosen := target_eq opens namesOne_script scriptRequest.quiet
  rw [selectBlock_script] at chosen
  exact chosen

end CommandLine
end Snippets
