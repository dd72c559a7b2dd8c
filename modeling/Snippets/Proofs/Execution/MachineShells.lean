import Mathlib.Data.List.Induction
import Snippets.Machine
import Snippets.Proofs.Execution.Shells

/-!
# The shells of a machine

A machine tracks its shells by the programs that were started on it.  Few of its steps touch
them: starting one puts it after all others, sending it text leaves it running, waiting for its
end makes it exit, and while a long file is written it may exit by itself.
-/

namespace Snippets
namespace Machine

open ShellStatus (Advances)

/-- The status of a program that was started. -/
def workerStatus (worker : Worker) : ShellStatus :=
  if worker.hasExited then .exited else .running

/-- How far the shell of a number has come on a machine. -/
def shellStatus (machine : Machine) (number : Nat) : ShellStatus :=
  match machine.workers[number]? with
  | none => .unused
  | some worker => workerStatus worker

/-- What does not touch the programs that were started touches no shell. -/
theorem shellStatus_eq
    {before after : Machine}
    (same : after.workers = before.workers) :
    after.shellStatus = before.shellStatus := by
  funext number
  rw [shellStatus, shellStatus, same]

/-- A step on one program moves its shell forward if it moves its status forward. -/
theorem advances_set
    {before after : Machine}
    {number : Nat}
    {worker worker' : Worker}
    (found : before.workers[number]? = some worker)
    (changed : after.workers = before.workers.set number worker')
    (forward : (workerStatus worker).rank ≤ (workerStatus worker').rank) :
    Advances before.shellStatus after.shellStatus := by
  intro other
  obtain ⟨present, -⟩ := List.getElem?_eq_some_iff.mp found
  by_cases same : other = number
  · subst same
    simpa [shellStatus, changed, found, List.getElem?_set_self present] using forward
  · simp [shellStatus, changed, List.getElem?_set_ne (Ne.symm same)]

theorem workers_runWorker
    (worker : Worker)
    (deadline : Option Nat)
    (machine : Machine) :
    (machine.runWorker worker deadline).2.workers = machine.workers :=
  rfl

theorem workers_removeFile (path : String) (machine : Machine) :
    (machine.removeFile path).workers = machine.workers := by
  unfold removeFile
  split
  · rfl
  · split <;> rfl

theorem workers_runCommand
    (command : String)
    (limit : Option Seconds)
    (machine : Machine) :
    (machine.runCommand command limit).2.workers = machine.workers := by
  unfold runCommand
  split
  · rfl
  split
  · rfl
  split
  · rfl
  · -- Neither the process nor what it leaves is looked into: it has no hold of the workers.
    dsimp only
    generalize Shell.Evaluation.run _ _ = outcome
    generalize Shell.World.isLate _ = late
    split
    · rfl
    · split
      · rfl
      · split
        · rfl
        · split <;> rfl

/-- Starting a shell either fails and changes nothing, or puts a program that was sent nothing
after all others. -/
theorem startShell_eq (name : String) (machine : Machine) :
    (∃ failure, machine.startShell name = (.error failure, machine)) ∨
      machine.startShell name =
        (.ok machine.workers.length,
          { machine with workers := machine.workers ++ [⟨Shell.ofText name, [], false⟩] }) := by
  unfold startShell
  split
  · exact .inl ⟨_, rfl⟩
  · dsimp only
    split
    · exact .inr rfl
    · split <;> exact .inl ⟨_, rfl⟩

/-- Starting a shell either fails and changes nothing, or puts a running program after all
others. -/
theorem startShell_cases (name : String) (machine : Machine) :
    (∃ failure, machine.startShell name = (.error failure, machine)) ∨
      ∃ worker, workerStatus worker = .running ∧
        machine.startShell name =
          (.ok machine.workers.length, { machine with workers := machine.workers ++ [worker] }) :=
  (machine.startShell_eq name).imp_right fun started => ⟨_, rfl, started⟩

theorem advances_append
    {machine : Machine}
    (worker : Worker) :
    Advances machine.shellStatus
      { machine with workers := machine.workers ++ [worker] }.shellStatus := by
  intro number
  unfold shellStatus
  cases found : machine.workers[number]? with
  | none => exact Nat.zero_le _
  | some old =>
      obtain ⟨present, -⟩ := List.getElem?_eq_some_iff.mp found
      simp [List.getElem?_append_left present, found]

theorem advances_startShell (name : String) (machine : Machine) :
    Advances machine.shellStatus (machine.startShell name).2.shellStatus := by
  rcases machine.startShell_cases name with ⟨failure, started⟩ | ⟨worker, -, started⟩
  · rw [started]
    exact Advances.refl _
  · rw [started]
    exact advances_append worker

theorem advances_writeShell (number : Nat) (text : String) (machine : Machine) :
    Advances machine.shellStatus (machine.writeShell number text).2.shellStatus := by
  unfold writeShell
  cases found : machine.workers[number]? with
  | none => exact Advances.refl _
  | some worker =>
      dsimp only
      split
      · exact Advances.refl _
      · exact advances_set found rfl (Nat.le_refl _)

theorem advances_endShell (number : Nat) (limit : Option Seconds) (machine : Machine) :
    Advances machine.shellStatus (machine.endShell number limit).2.shellStatus := by
  unfold endShell
  cases found : machine.workers[number]? with
  | none => exact Advances.refl _
  | some worker =>
      dsimp only
      split
      · exact Advances.refl _
      · refine advances_set found (by rw [workers_runWorker]) ?_
        simp only [workerStatus]
        split <;> simp

/-- A program that goes on for some time is left as it is or exits. -/
theorem advances_letGoOn (time : Nat) (machine : Machine) (number : Nat) :
    Advances machine.shellStatus (machine.letGoOn time number).shellStatus := by
  unfold letGoOn
  cases found : machine.workers[number]? with
  | none => exact Advances.refl _
  | some worker =>
      dsimp only
      split
      · exact Advances.refl _
      split
      · exact Advances.refl _
      · refine advances_set found (by rw [workers_runWorker]) ?_
        simp only [workerStatus]
        split <;> simp

theorem advances_elapse (microseconds : Nat) (machine : Machine) :
    Advances machine.shellStatus (machine.elapse microseconds).shellStatus := by
  unfold elapse
  split
  · exact Advances.refl _
  · have goOn (numbers : List Nat) (time : Nat) :
        Advances machine.shellStatus (numbers.foldl (letGoOn time) machine).shellStatus := by
      induction numbers using List.reverseRecOn with
      | nil => exact Advances.refl _
      | append_singleton numbers number inductionHypothesis =>
          rw [List.foldl_append]
          exact inductionHypothesis.trans (advances_letGoOn time _ number)
    exact goOn _ _

theorem advances_createFile (ext content : String) (machine : Machine) :
    Advances machine.shellStatus (machine.createFile ext content).2.shellStatus := by
  unfold createFile
  dsimp only
  split
  · exact Advances.refl _
  · refine Advances.trans ?_ (advances_elapse _ _)
    exact .of_eq (shellStatus_eq rfl)

/-- The host of machines tracks its shells. -/
theorem tracks : host.Tracks shellStatus where
  createFile := advances_createFile
  removeFile := fun path machine => .of_eq (shellStatus_eq (workers_removeFile path machine))
  runCommand := fun command limit machine =>
    .of_eq (shellStatus_eq (workers_runCommand command limit machine))
  startShell := advances_startShell
  started := fun name machine shell answer => by
    rcases machine.startShell_cases name with ⟨failure, started⟩ | ⟨worker, running, started⟩
    · simp [host, started] at answer
    · simp only [host, started, Except.ok.injEq] at answer ⊢
      simp [shellStatus, ← answer, running]
  answer := fun shell machine => by
    rw [Bool.eq_iff_iff, decide_eq_true_eq]
    simp only [host, isRunning, shellStatus]
    cases machine.workers[shell]? with
    | none => simp
    | some worker => cases exited : worker.hasExited <;> simp [workerStatus, exited]
  asking := fun _ _ => rfl
  writeShell := advances_writeShell
  endShell := advances_endShell
  ended := fun shell limit machine canWait => by
    simp only [host, endShell, canWait, if_true]
    split
    · rfl
    · split <;> rfl

/-! ## A machine with a shell only -/

open Shell

/-- The file of the program that sessions start. -/
def shellContent : List UInt8 :=
  Program.programMark ++ Text.encodeUtf8 Session.defaultShell.toList

/-- A machine whose only file is the program that sessions start, on which some programs were
started. -/
def withWorkers (workers : List Worker) : Machine where
  world :=
    { tree := ⟨[(["bash"], .file shellContent .program)]⟩
      clock := startTime
      deadline := none
      buffers := #[.ofText []]
      nextProcess := ownProcess + 1
      later := []
      ended := []
      signals := []
      limits := []
      files := []
      outside := none
      current := ownProcess }
  bindings := [("PATH", ".")]
  directory := []
  temporary := "tmp"
  nextFile := 0
  workers := workers

/-- A program that a session started and sent a text. -/
def shellWorker (text : String) (hasExited : Bool) : Worker :=
  ⟨ofText Session.defaultShell, ofText text, hasExited⟩

/-- Whether the program that sessions start is in the working directory, and is looked for
there. -/
structure HasShell (machine : Machine) : Prop where
  program : machine.world.tree.node? ["bash"] = some (.file shellContent .program)
  here : machine.directory = []
  searches : machine.bindings.lookup "PATH" = some "."

namespace HasShell

variable {machine : Machine} (has : machine.HasShell)

include has

theorem locate : machine.world.tree.locate [] "./bash" = .ok ["bash"] := by
  have noFailure : FileTree.textFailure? "./bash" = none := by decide
  have parts : Path.parts "./bash" = [".", "bash"] := by decide
  have start : FileTree.start [] "./bash" = [] := by decide
  have short : ¬FileTree.longestName < "bash".utf8ByteSize := by decide
  have root : machine.world.tree.node? [] = some (.directory .directory) := rfl
  simp [FileTree.locate, noFailure, FileTree.follow, parts, start, FileTree.followLinks, short,
    root, has.program]

theorem atPath : Program.atPath machine.world.tree [] "./bash".toList = .file ["bash"] := by
  have text : toText "./bash".toList = "./bash" := by decide
  have isFile : "./bash".toList.getLast? ≠ some '/' := by decide
  have isProgram : (FileNode.file shellContent .program).isProgram = true := by decide
  rw [Program.atPath, text, has.locate]
  dsimp only
  rw [has.program]
  exact if_pos ⟨isProgram, isFile⟩

theorem foundPrograms : machine.foundPrograms (ofText Session.defaultShell) = [.file ["bash"]] := by
  have noSlash : ¬(ofText Session.defaultShell).contains '/' = true := by decide
  have single : Program.searched (ofText ".") = [['.']] := by decide
  have searched : Program.searched machine.searchPath = [['.']] := by
    rw [searchPath, has.searches]
    exact single
  have joined : ['.'] ++ '/' :: ofText Session.defaultShell = "./bash".toList := by decide
  rw [Machine.foundPrograms, if_neg noSlash, Program.candidates, searched, has.here]
  simp only [List.map_cons, List.map_nil]
  rw [if_neg (by decide), joined]
  exact congrArg (fun found => [found]) has.atPath

theorem startShell :
    host.startShell Session.defaultShell machine =
      (.ok machine.workers.length,
        { machine with
          workers := machine.workers ++ [⟨ofText Session.defaultShell, [], false⟩] }) := by
  have valid : ¬Session.defaultShell.toList.contains '\x00' = true := by decide
  have isProgram : (Program.nameOf? (toBytes ((ofBytes shellContent).take 64))).isSome = true := by
    decide +kernel
  have starts : machine.startFailure? (.file ["bash"]) = none := by
    simp only [startFailure?, State.fileContent, has.program, isProgram, if_true]
  have step : host.startShell = Machine.startShell := rfl
  rw [step, Machine.startShell, if_neg valid, has.foundPrograms, List.map_singleton, starts]
  rfl

end HasShell

theorem hasShell_withWorkers (workers : List Worker) : (withWorkers workers).HasShell where
  program := by simp [withWorkers, FileTree.node?]
  here := rfl
  searches := rfl

theorem startShell_withWorkers (workers : List Worker) :
    host.startShell Session.defaultShell (withWorkers workers) =
      (.ok workers.length, withWorkers (workers ++ [shellWorker "" false])) := by
  have empty : ofText "" = [] := by decide
  rw [(hasShell_withWorkers workers).startShell, shellWorker, empty]
  rfl

theorem writeShell_withWorkers
    (workers : List Worker)
    {text : String}
    (short : ¬pipeSize < (ofText text).length) :
    host.writeShell workers.length text (withWorkers (workers ++ [shellWorker "" false])) =
      (.ok (), withWorkers (workers ++ [shellWorker text false])) := by
  have empty : ofText "" = [] := by decide
  simp [host, writeShell, withWorkers, shellWorker, empty, short]

end Machine
end Snippets
