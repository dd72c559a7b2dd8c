import Snippets.Proofs.Execution.MachineFiles

/-!
# Temporary files of runs

In file mode a run owns one temporary file.  It makes it under a name that is free, runs the
command on it, and removes it with what the runner may have made out of it, whatever the command
does and however it ends.  In shell mode the text that is sent removes the file, so a run has to
remove it only if the text cannot be sent.  The main statements say what both come to on the files
of a machine.
-/

namespace Snippets

open Machine (Programs)

namespace Executor

variable {State : Type} {host : Host State}

/-! ## Runs in a process of their own -/

theorem run_of_file
    {executor : Executor}
    {block : Block}
    {runner : Runner}
    (isFile : executor.engine = .file)
    (isOpen : executor.closed = false)
    (found : executor.runners.get? block.language = some runner)
    (state : State) :
    executor.run host block state =
      ((runFile host executor.limit runner block.code state).1, executor,
        (runFile host executor.limit runner block.code state).2) := by
  have asked : executor.isClosed host state = (false, state) := by
    simp [isClosed, isOpen, isFile]
  unfold run
  simp only [asked, found, isFile]

/-- A run with a temporary file runs the command on it and cleans up after every outcome. -/
theorem runFile_of_created
    {limit : Option Seconds}
    {runner : Runner}
    {code path : String}
    {before started ended : State}
    {outcome : Except CommandFailure Int}
    (created : host.createFile runner.ext (fileContent code) before = (.ok path, started))
    (commanded : host.runCommand (runner.render path) limit started = (outcome, ended)) :
    runFile host limit runner code before =
      (resultOf limit (runner.render path) outcome, cleanUp host path ended) := by
  simp only [runFile, created, commanded]

/-- Whether the answer of a run tells how its command ended. -/
def Reports (command : String) (answer : Except RunFailure RunResult) :
    Except CommandFailure Int → Prop
  | .ok status => answer = .ok ⟨command, some status⟩
  | .error .timedOut => ∃ failure, answer = .error failure ∧ failure.message?.isSome = true
  | .error (.notStarted _) => ∃ failure, answer = .error failure ∧ failure.message?.isSome = true
  | .error (.other failure) => answer = .error (.host failure)

theorem reports_resultOf
    (limit : Option Seconds)
    (command : String)
    (outcome : Except CommandFailure Int) :
    Reports command (resultOf limit command outcome) outcome := by
  match outcome with
  | .ok status => exact rfl
  | .error .timedOut => exact ⟨_, rfl, rfl⟩
  | .error (.notStarted reason) => exact ⟨_, rfl, rfl⟩
  | .error (.other failure) => exact rfl

/-- A run in file mode starts its command on a new file that holds the code and a line feed, and
whatever the command does, it leaves neither that file nor what was made out of it, and removes
nothing else. -/
theorem run_owns_file
    (programs : Programs)
    {executor : Executor}
    {block : Block}
    {runner : Runner}
    {machine started : Machine}
    {path : String}
    (isFile : executor.engine = .file)
    (isOpen : executor.closed = false)
    (found : executor.runners.get? block.language = some runner)
    (created : machine.createFile runner.ext (block.code ++ "\n") = (.ok path, started)) :
    ∃ outcome ended answer left,
      programs.runCommand (runner.render path) executor.limit started = (outcome, ended) ∧
      executor.run (Machine.hostWith programs) block machine = (answer, executor, left) ∧
      machine.IsTemporary runner.ext path ∧
      (machine.Undisturbed (block.code ++ "\n") →
        machine.Makes path (block.code ++ "\n") started) ∧
      ((∀ place ∈ [path, path ++ ".out"], ∀ node,
          ended.nodeAt? place = some node → node.isDirectory = false) →
        ended.Clears [path, path ++ ".out"] left) ∧
      Reports (runner.render path) answer outcome := by
  rcases commanded : programs.runCommand (runner.render path) executor.limit started
    with ⟨outcome, ended⟩
  have ran : runFile (Machine.hostWith programs) executor.limit runner block.code machine = _ :=
    runFile_of_created created commanded
  refine ⟨outcome, ended, _, _, rfl, run_of_file isFile isOpen found machine,
    Machine.isTemporary_of_createFile created, Machine.makes_createFile created, ?_, ?_⟩
  · rw [ran]
    exact Machine.clears_cleanUp programs
  · rw [ran]
    exact reports_resultOf _ _ outcome

/-- Programs of which no command ends in time. -/
def slowPrograms : Programs :=
  { Machine.ownPrograms with runCommand := fun _ _ machine => (.error .timedOut, machine) }

/-- An executor that runs notes in processes of their own. -/
def noteExecutor : Executor :=
  .make Machine.noteRunners .file (some (.whole 5)) Session.defaultShell

/-- The statement on runs in file mode, for a note whose command takes too long. -/
theorem run_owns_file_slow :
    noteExecutor.engine = .file ∧
    noteExecutor.closed = false ∧
    noteExecutor.runners.get? Machine.note.language = some Machine.noteRunner ∧
    Machine.tidy.createFile Machine.noteRunner.ext (Machine.note.code ++ "\n") =
      (.ok Machine.notePath, Machine.noted) ∧
    Machine.tidy.Makes Machine.notePath (Machine.note.code ++ "\n") Machine.noted ∧
    ∃ failure left,
      noteExecutor.run (Machine.hostWith slowPrograms) Machine.note Machine.tidy =
        (.error failure, noteExecutor, left) ∧
      failure.message?.isSome = true ∧
      Machine.noted.Clears [Machine.notePath, Machine.notePath ++ ".out"] left := by
  have found : noteExecutor.runners.get? Machine.note.language = some Machine.noteRunner := by
    decide
  obtain ⟨outcome, ended, answer, left, commanded, ran, -, makes, clears, reports⟩ :=
    run_owns_file slowPrograms rfl rfl found Machine.createFile_tidy
  cases commanded
  obtain ⟨failure, rfl, documented⟩ := reports
  have made := makes (Machine.undisturbed_of_alone rfl rfl _)
  refine ⟨rfl, rfl, found, Machine.createFile_tidy, made, failure, left, ran, documented,
    clears fun place present node there => ?_⟩
  simp only [List.mem_cons, List.not_mem_nil, or_false] at present
  rcases present with rfl | rfl
  · obtain ⟨traits, holds⟩ := made.holds
    cases holds.symm.trans there
    rfl
  · rw [Machine.nodeAt?_noteArtifact] at there
    cases there

end Executor

/-! ## Runs in a session -/

namespace Session

variable {programs : Programs}

theorem sameFiles_launch
    (leaves : programs.LeavesFiles)
    (session : Session)
    (machine : Machine) :
    machine.SameFiles (session.launch (Machine.hostWith programs) machine).2.2 := by
  have same := leaves.startShell session.shell machine
  unfold launch
  rcases started : (Machine.hostWith programs).startShell session.shell machine
    with ⟨answer, after⟩
  rw [show programs.startShell session.shell machine = _ from started] at same
  match answer with
  | .ok shell => exact same
  | .error .missing => exact same
  | .error (.other reason) => exact same

/-- Whether a session needs a shell that cannot be started, although there may be one of its
name. -/
def IsRefused (programs : Programs) (session : Session) (machine : Machine) : Prop :=
  (∀ shell, session.process = some shell → programs.isRunning shell machine = false) ∧
    ∃ reason, (programs.startShell session.shell machine).1 = .error (.other reason)

/-- A session on a machine either holds a shell that is running or launches one. -/
theorem ensure_hostWith (programs : Programs) (session : Session) (machine : Machine) :
    (∃ shell, session.process = some shell ∧ programs.isRunning shell machine = true ∧
      session.ensure (Machine.hostWith programs) machine = (.ok shell, session, machine)) ∨
    ((∀ shell, session.process = some shell → programs.isRunning shell machine = false) ∧
      session.ensure (Machine.hostWith programs) machine =
        session.launch (Machine.hostWith programs) machine) := by
  rw [ensure_eq_launch]
  cases session.process with
  | none => exact .inr ⟨nofun, rfl⟩
  | some shell =>
      dsimp only [Machine.hostWith]
      cases running : programs.isRunning shell machine with
      | true => exact .inl ⟨shell, rfl, running, rfl⟩
      | false => exact .inr ⟨fun other same => Option.some.inj same ▸ running, rfl⟩

theorem sameFiles_ensure
    (leaves : programs.LeavesFiles)
    (session : Session)
    (machine : Machine) :
    machine.SameFiles (session.ensure (Machine.hostWith programs) machine).2.2 := by
  rcases session.ensure_hostWith programs machine with
    ⟨shell, -, -, holds⟩ | ⟨-, launches⟩
  · rw [holds]
    exact .refl machine
  · rw [launches]
    exact sameFiles_launch leaves session machine

theorem sameFiles_send
    (leaves : programs.LeavesFiles)
    (text : String)
    (session : Session)
    (machine : Machine) :
    machine.SameFiles (session.send (Machine.hostWith programs) text machine).2.2 := by
  have same := sameFiles_ensure leaves session machine
  unfold send
  rcases ensured : session.ensure (Machine.hostWith programs) machine with ⟨answer, held, after⟩
  rw [ensured] at same
  match answer with
  | .error failure => exact same
  | .ok shell =>
      have wrote := leaves.writeShell shell text after
      rcases written : (Machine.hostWith programs).writeShell shell text after
        with ⟨outcome, last⟩
      rw [show programs.writeShell shell text after = _ from written] at wrote
      simp only [written]
      cases outcome with
      | ok _ => exact same.trans wrote
      | error reason => exact same.trans wrote

theorem launch_other_iff {session : Session} {machine : Machine} {reason : HostFailure} :
    (session.launch (Machine.hostWith programs) machine).1 = .error (.other reason) ↔
      (programs.startShell session.shell machine).1 = .error (.other reason) := by
  unfold launch
  dsimp only [Machine.hostWith]
  rcases programs.startShell session.shell machine with ⟨answer, after⟩
  match answer with
  | .ok shell => simp
  | .error .missing => simp
  | .error (.other failure) => simp

/-- Writing fails with a message only. -/
theorem send_other_iff {text : String} {session : Session} {machine : Machine}
    {reason : HostFailure} :
    (session.send (Machine.hostWith programs) text machine).1 = .error (.other reason) ↔
      (session.ensure (Machine.hostWith programs) machine).1 = .error (.other reason) := by
  unfold send
  rcases session.ensure (Machine.hostWith programs) machine with ⟨answer, held, after⟩
  cases answer with
  | error failure => simp
  | ok shell =>
      rcases written : (Machine.hostWith programs).writeShell shell text after
        with ⟨outcome, last⟩
      simp only [written]
      cases outcome <;> simp

/-- A send fails without a message exactly if the shell that it needs is refused. -/
theorem isRefused_iff {text : String} {session : Session} {machine : Machine} :
    session.IsRefused programs machine ↔
      ∃ reason, (session.send (Machine.hostWith programs) text machine).1 =
        .error (.other reason) := by
  simp only [send_other_iff]
  rcases session.ensure_hostWith programs machine with
    ⟨shell, held, running, holds⟩ | ⟨lacks, launches⟩
  · refine ⟨fun ⟨lacks, _⟩ => ?_, fun ⟨reason, failed⟩ => ?_⟩
    · simp [lacks shell held] at running
    · simp [holds] at failed
  · simp only [launches, launch_other_iff]
    exact ⟨And.right, fun refused => ⟨lacks, refused⟩⟩

end Session

namespace Executor

section

variable {programs : Programs} {session : Session} {machine : Machine}

theorem isClosed_hostWith
    (programs : Programs)
    (executor : Executor)
    (machine : Machine) :
    (executor.isClosed (Machine.hostWith programs) machine).2 = machine := by
  unfold isClosed
  split
  · rfl
  · split
    · rfl
    · rename_i session _
      cases held : session.process with
      | none => simp [Session.hasEnded, held]
      | some shell => simp [Session.hasEnded, held, Machine.hostWith]

theorem run_of_shell
    {executor : Executor}
    {block : Block}
    {runner : Runner}
    (inShell : executor.engine = .shell session)
    (isOpen : (executor.isClosed (Machine.hostWith programs) machine).1 = false)
    (found : executor.runners.get? block.language = some runner) :
    executor.run (Machine.hostWith programs) block machine =
      let sent := runShell (Machine.hostWith programs) runner block session machine
      (sent.1, { executor with engine := .shell sent.2.1 }, sent.2.2) := by
  have unchanged := executor.isClosed_hostWith programs machine
  unfold run
  rcases asked : executor.isClosed (Machine.hostWith programs) machine with ⟨answer, after⟩
  rw [asked] at isOpen unchanged
  dsimp only at isOpen unchanged
  subst isOpen unchanged
  simp only [found, inShell]

/-- A run with a temporary file cleans it up if its text cannot be sent for a reason with a
message. -/
theorem runShell_of_created
    {host : Host State}
    {runner : Runner}
    {block : Block}
    {path : String}
    {before started : State}
    (isOther : block.language ≠ Language.shellscript)
    (created : host.createFile runner.ext (fileContent block.code) before =
      (.ok path, started)) :
    runShell host runner block session before =
      match sendText host (sessionCommand runner path) session started with
      | (.ok result, session, state) => (.ok result, session, state)
      | (.error failure, session, state) =>
          (.error failure, session,
            if failure.message?.isSome then cleanUp host path state else state) := by
  unfold runShell
  rw [if_neg isOther, created]
  dsimp only
  rcases sendText host (sessionCommand runner path) session started with ⟨answer, session', after⟩
  cases answer with
  | ok result => rfl
  | error failure => cases failure <;> rfl

/-- A text that cannot be sent leaves the files, and if there is no message, the shell is
refused. -/
theorem sendText_failed
    (leaves : programs.LeavesFiles)
    (text : String)
    (session : Session)
    (machine : Machine)
    {failure : RunFailure}
    (failed : (sendText (Machine.hostWith programs) text session machine).1 = .error failure) :
    machine.SameFiles (sendText (Machine.hostWith programs) text session machine).2.2 ∧
      (failure.message? = none → session.IsRefused programs machine) := by
  have same := Session.sameFiles_send leaves text session machine
  have refuses : (∃ reason, (session.send (Machine.hostWith programs) text machine).1 =
      .error (.other reason)) → session.IsRefused programs machine :=
    Session.isRefused_iff.mpr
  unfold sendText at failed ⊢
  rcases sent : session.send (Machine.hostWith programs) text machine
    with ⟨answer, session', after⟩
  rw [sent] at same failed
  simp only [sent] at refuses
  match answer with
  | .ok () => cases failed
  | .error (.shellMissing name) =>
      cases failed
      exact ⟨same, nofun⟩
  | .error (.shellGone reason) =>
      cases failed
      exact ⟨same, nofun⟩
  | .error (.other reason) =>
      cases failed
      exact ⟨same, fun _ => refuses ⟨reason, rfl⟩⟩

/-- What comes before the text of a block is sent: code in the language of the shell is sent
as it is, and for other code a temporary file is made, where nobody changes files meanwhile and
nothing stands that a clean-up would remove besides. -/
inductive Prepares (runner : Runner) (block : Block) (machine : Machine) : Machine → Prop
  | text (isShell : block.language = Language.shellscript) :
      Prepares runner block machine machine
  | file
      {path : String}
      {started : Machine}
      (isOther : block.language ≠ Language.shellscript)
      (created : machine.createFile runner.ext (block.code ++ "\n") = (.ok path, started))
      (undisturbed : machine.Undisturbed (block.code ++ "\n"))
      (free : (machine.nodeAt? (path ++ ".out")).all FileNode.isDirectory = true) :
      Prepares runner block machine started

/-- A run whose text cannot be sent either says why and leaves the files as they were, or leaves
them as they are when the shell is refused. -/
theorem runShell_failed
    (leaves : programs.LeavesFiles)
    {runner : Runner}
    {block : Block}
    {started : Machine}
    (prepares : Prepares runner block machine started)
    {failure : RunFailure}
    (failed : (runShell (Machine.hostWith programs) runner block session machine).1 =
      .error failure) :
    (failure.message?.isSome = true ∧
      machine.SameFiles (runShell (Machine.hostWith programs) runner block session machine).2.2) ∨
    (failure.message? = none ∧ session.IsRefused programs started ∧
      started.SameFiles
        (runShell (Machine.hostWith programs) runner block session machine).2.2) := by
  cases prepares with
  | text isShell =>
      unfold runShell at failed ⊢
      rw [if_pos isShell] at failed ⊢
      obtain ⟨same, refuses⟩ := sendText_failed leaves _ _ _ failed
      cases failure with
      | host reason => exact .inr ⟨rfl, refuses rfl, same⟩
      | _ => exact .inl ⟨rfl, same⟩
  | @file path started isOther created undisturbed free =>
      have makes : (Machine.hostWith programs).createFile runner.ext (fileContent block.code)
          machine = (.ok path, started) := created
      have sending : _ = Except.error failure → _ :=
        sendText_failed leaves (sessionCommand runner path) session started
      rw [runShell_of_created isOther makes] at failed ⊢
      rcases sent : sendText (Machine.hostWith programs) (sessionCommand runner path) session
        started with ⟨answer, session', after⟩
      simp only [sent] at failed sending ⊢
      cases answer with
      | ok result => cases failed
      | error other =>
          cases failed
          obtain ⟨same, refuses⟩ := sending rfl
          cases failure with
          | host reason => exact .inr ⟨rfl, refuses rfl, same⟩
          | _ =>
              exact .inl ⟨rfl,
                Machine.sameFiles_cleanUp programs created undisturbed free same⟩

/-- A run in a session whose shell is refused fails without a message, and the temporary file
stays. -/
theorem refused_run_leaves_file
    (leaves : programs.LeavesFiles)
    {executor : Executor}
    {block : Block}
    {runner : Runner}
    {started : Machine}
    {path : String}
    (inShell : executor.engine = .shell session)
    (isOpen : (executor.isClosed (Machine.hostWith programs) machine).1 = false)
    (found : executor.runners.get? block.language = some runner)
    (isOther : block.language ≠ Language.shellscript)
    (created : machine.createFile runner.ext (block.code ++ "\n") = (.ok path, started))
    (undisturbed : machine.Undisturbed (block.code ++ "\n"))
    (refused : session.IsRefused programs started) :
    ∃ failure,
      (executor.run (Machine.hostWith programs) block machine).1 = .error failure ∧
      failure.message? = none ∧
      machine.Makes path (block.code ++ "\n")
        (executor.run (Machine.hostWith programs) block machine).2.2 := by
  have makes : (Machine.hostWith programs).createFile runner.ext (fileContent block.code)
      machine = (.ok path, started) := created
  obtain ⟨reason, failed⟩ : ∃ reason, (session.send (Machine.hostWith programs)
      (sessionCommand runner path) started).1 = .error (.other reason) :=
    Session.isRefused_iff.mp refused
  have same := Session.sameFiles_send leaves (sessionCommand runner path) session started
  rw [run_of_shell inShell isOpen found, runShell_of_created isOther makes]
  rcases sent : session.send (Machine.hostWith programs) (sessionCommand runner path) started
    with ⟨answer, held, after⟩
  rw [sent] at failed same
  dsimp only at failed
  subst failed
  simp only [sendText, sent]
  exact ⟨.host reason, rfl, rfl,
    (Machine.makes_createFile created undisturbed).sameFiles same⟩

/-- A run whose text cannot be sent, although the shell that it needs is not refused, says why
and leaves the files as they were. -/
theorem failed_run_leaves_files
    (leaves : programs.LeavesFiles)
    {executor : Executor}
    {block : Block}
    {runner : Runner}
    {started : Machine}
    {failure : RunFailure}
    (inShell : executor.engine = .shell session)
    (isOpen : (executor.isClosed (Machine.hostWith programs) machine).1 = false)
    (found : executor.runners.get? block.language = some runner)
    (prepares : Prepares runner block machine started)
    (startable : ¬session.IsRefused programs started)
    (failed : (executor.run (Machine.hostWith programs) block machine).1 = .error failure) :
    failure.message?.isSome = true ∧
      machine.SameFiles (executor.run (Machine.hostWith programs) block machine).2.2 := by
  rw [run_of_shell inShell isOpen found] at failed ⊢
  rcases runShell_failed leaves prepares failed with documented | ⟨-, refused, -⟩
  · exact documented
  · exact absurd refused startable

end

/-- An executor that runs notes in a session of a shell. -/
def sessionExecutor (shell : String) : Executor :=
  .make Machine.noteRunners .shell none shell

/-- Nobody disturbs a note, and nothing has been made out of it. -/
theorem prepares_note : Prepares Machine.noteRunner Machine.note Machine.tidy Machine.noted := by
  refine .file (by decide) Machine.createFile_tidy (Machine.undisturbed_of_alone rfl rfl _) ?_
  rw [Machine.nodeAt?_of_place? Machine.place?_noteArtifact]
  decide

/-- The statement on runs that fail in a session, for a shell that is missing. -/
theorem failed_run_leaves_files_missing :
    Machine.ownPrograms.LeavesFiles ∧
    (sessionExecutor "/none").engine = .shell (Session.ofShell "/none") ∧
    ((sessionExecutor "/none").isClosed Machine.host Machine.tidy).1 = false ∧
    (sessionExecutor "/none").runners.get? Machine.note.language = some Machine.noteRunner ∧
    Prepares Machine.noteRunner Machine.note Machine.tidy Machine.noted ∧
    ¬(Session.ofShell "/none").IsRefused Machine.ownPrograms Machine.noted ∧
    ((sessionExecutor "/none").run Machine.host Machine.note Machine.tidy).1 =
      .error (.shellMissing "/none") ∧
    Machine.tidy.SameFiles
      ((sessionExecutor "/none").run Machine.host Machine.note Machine.tidy).2.2 := by
  have found : (sessionExecutor "/none").runners.get? Machine.note.language =
      some Machine.noteRunner := by
    decide
  have startable : ¬(Session.ofShell "/none").IsRefused Machine.ownPrograms Machine.noted := by
    rintro ⟨-, reason, refused⟩
    cases (congrArg Prod.fst Machine.startShell_absent).symm.trans refused
  have failed : ((sessionExecutor "/none").run Machine.host Machine.note Machine.tidy).1 =
      .error (.shellMissing "/none") := by
    have absent : (Machine.hostWith Machine.ownPrograms).startShell
        (Session.ofShell "/none").shell Machine.noted = (.error .missing, Machine.noted) :=
      Machine.startShell_absent
    have unused : (Session.ofShell "/none").process = none := rfl
    have inShell : (sessionExecutor "/none").engine = .shell (Session.ofShell "/none") := rfl
    rw [← Machine.hostWith_ownPrograms, run_of_shell inShell rfl found,
      runShell_of_created (by decide) Machine.createFile_tidy]
    simp only [sendText, Session.send, Session.ensure_eq_launch, unused, Session.launch, absent]
    rfl
  exact ⟨Machine.leavesFiles_ownPrograms, rfl, rfl, found, prepares_note, startable, failed,
    (failed_run_leaves_files Machine.leavesFiles_ownPrograms rfl rfl found prepares_note startable
      failed).2⟩

/-- The note stays if the shell is a directory, and the run does not say why it failed. -/
theorem not_leaves_files_directory :
    Machine.ownPrograms.LeavesFiles ∧
    (sessionExecutor "/").engine = .shell (Session.ofShell "/") ∧
    ((sessionExecutor "/").isClosed Machine.host Machine.tidy).1 = false ∧
    (sessionExecutor "/").runners.get? Machine.note.language = some Machine.noteRunner ∧
    Prepares Machine.noteRunner Machine.note Machine.tidy Machine.noted ∧
    ∃ failure,
      ((sessionExecutor "/").run Machine.host Machine.note Machine.tidy).1 = .error failure ∧
      ¬failure.message?.isSome = true ∧
      ¬Machine.tidy.SameFiles
        ((sessionExecutor "/").run Machine.host Machine.note Machine.tidy).2.2 := by
  have found : (sessionExecutor "/").runners.get? Machine.note.language =
      some Machine.noteRunner := by
    decide
  have inShell : (sessionExecutor "/").engine = .shell (Session.ofShell "/") := rfl
  have refused : (Session.ofShell "/").IsRefused Machine.ownPrograms Machine.noted :=
    ⟨nofun, .refused, congrArg Prod.fst Machine.startShell_root⟩
  obtain ⟨failure, failed, noMessage, makes⟩ :=
    refused_run_leaves_file Machine.leavesFiles_ownPrograms inShell rfl found (by decide)
      Machine.createFile_tidy (Machine.undisturbed_of_alone rfl rfl _) refused
  refine ⟨Machine.leavesFiles_ownPrograms, rfl, rfl, found, prepares_note, failure, failed,
    by simp [noMessage], fun same => ?_⟩
  obtain ⟨traits, holds⟩ := makes.holds
  have gone := makes.isNew
  rw [← same.nodeAt?] at gone
  cases gone.symm.trans holds

end Executor
end Snippets
