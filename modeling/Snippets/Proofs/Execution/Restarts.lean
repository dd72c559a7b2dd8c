import Snippets.Proofs.Execution.Sharing
import Snippets.Proofs.Execution.Watching

/-!
# Shells that are started again

A run looks twice at the shell that its executor holds: once to see whether the executor is
closed, and once more before it writes.  If the shell exits between the two looks, the run starts
another and writes to that.  The main statement is that this is the only way in which an executor
comes to a second shell, whatever else happens between the steps of its runs, and that a run
without such a lapse never succeeds once the shell that it uses has exited.
-/

namespace Snippets

open ShellStatus (Advances)

/-- Whether writing to a shell that has exited fails, as it does if nobody else reads what is
written. -/
def Host.ClosesInputs
    {State : Type}
    (host : Host State)
    (status : State → Nat → ShellStatus) : Prop :=
  ∀ shell text state, status state shell = .exited →
    ∃ reason, (host.writeShell shell text state).1 = .error reason

namespace HostStep

/-- The shell that is started in a step. -/
def started? : HostStep → Option Nat
  | .startShell _ (.ok shell) => some shell
  | _ => none

/-- The shell that is looked at in a step, and whether it is running. -/
def look? : HostStep → Option (Nat × Bool)
  | .isRunning shell answer => some (shell, answer)
  | _ => none

end HostStep

namespace Passage

variable {State : Type}

/-- The shells that are started in a run. -/
def started (passage : Passage State) : List Nat :=
  (passage.steps.map Prod.snd).filterMap HostStep.started?

/-- What the looks at shells find in a run. -/
def looks (passage : Passage State) : List (Nat × Bool) :=
  (passage.steps.map Prod.snd).filterMap HostStep.look?

/-- Whether some shell is found running in a run and is also found not running. -/
def lapses (passage : Passage State) : Bool :=
  passage.looks.any fun look => look.2 && passage.looks.contains (look.1, false)

/-- Whether a shell is the one that was held before a run or is started in it. -/
def Uses (passage : Passage State) (shell : Nat) : Prop :=
  passage.held = some shell ∨ shell ∈ passage.started

/-- Whether a temporary file is missing, as it could not be made. -/
def LacksFile (passage : Passage State) : Prop :=
  ∃ ext content reason, .createFile ext content (.error reason) ∈ passage.steps.map Prod.snd

/-- Whether a run starts no shell beside the one that is held, and fails if the shell that it
uses has exited before some step of it. -/
def IsCareful (status : State → Nat → ShellStatus) (passage : Passage State) : Prop :=
  (passage.held.isSome = true → passage.started = []) ∧
  ∀ shell, passage.Uses shell → ∀ entry ∈ passage.steps, status entry.1 shell = .exited →
    ∃ failure, passage.result = .error failure ∧
      (failure.message?.isSome = true ∨ passage.LacksFile)

theorem lapses_of_looks
    {passage : Passage State}
    {shell : Nat}
    (foundRunning : .isRunning shell true ∈ passage.steps.map Prod.snd)
    (foundGone : .isRunning shell false ∈ passage.steps.map Prod.snd) :
    passage.lapses = true := by
  have first : (shell, true) ∈ passage.looks := List.mem_filterMap.mpr ⟨_, foundRunning, rfl⟩
  have second : (shell, false) ∈ passage.looks := List.mem_filterMap.mpr ⟨_, foundGone, rfl⟩
  exact List.any_eq_true.mpr ⟨_, first, by simpa using second⟩

end Passage

/-! ## Which steps start a shell -/

/-- Whether no step tries to start a shell. -/
def StartsNone (steps : List HostStep) : Prop :=
  ∀ name answer, .startShell name answer ∉ steps

theorem startsNone_nil : StartsNone [] := by
  simp [StartsNone]

theorem startsNone_createFile (ext content : String) (answer : Except HostFailure String) :
    StartsNone [.createFile ext content answer] := by
  simp [StartsNone]

theorem StartsNone.filterMap_started?
    {steps : List HostStep}
    (startsNone : StartsNone steps) :
    steps.filterMap HostStep.started? = [] := by
  refine List.filterMap_eq_nil_iff.mpr fun step present => ?_
  match step with
  | .startShell name answer => exact absurd present (startsNone name answer)
  | .createFile .. | .removeFile .. | .runCommand .. | .isRunning .. | .writeShell .. |
    .endShell .. => rfl

namespace Session

/-- Whether steps start at most one shell, which is held from then on, and try to start one only
if no shell is held that is found running. -/
structure Starts (session : Session) (steps : List HostStep) (session' : Session) : Prop where
  atMostOne :
    steps.filterMap HostStep.started? = [] ∧ session'.process = session.process ∨
    ∃ shell, steps.filterMap HostStep.started? = [shell] ∧ session'.process = some shell
  foundGone : ∀ old name answer, session.process = some old →
    .startShell name answer ∈ steps → .isRunning old false ∈ steps

theorem Starts.of_none
    {session : Session}
    {steps : List HostStep}
    (startsNone : StartsNone steps) :
    session.Starts steps session where
  atMostOne := .inl ⟨startsNone.filterMap_started?, rfl⟩
  foundGone := fun _ name answer _ started => absurd started (startsNone name answer)

/-- What steps start does not depend on others before and after them that start nothing. -/
theorem Starts.wrap
    {session session' : Session}
    {front steps back : List HostStep}
    (starts : session.Starts steps session')
    (startsNone : StartsNone front)
    (startsNoneToo : StartsNone back) :
    session.Starts (front ++ steps ++ back) session' where
  atMostOne := by
    simpa only [List.filterMap_append, startsNone.filterMap_started?,
      startsNoneToo.filterMap_started?, List.nil_append, List.append_nil] using starts.atMostOne
  foundGone := fun old name answer held started => by
    have inside : .startShell name answer ∈ steps := by
      simpa [startsNone name answer, startsNoneToo name answer] using started
    simp [starts.foundGone old name answer held inside]

theorem Misses.startsNone
    {session : Session}
    {steps : List HostStep}
    (misses : session.Misses steps) :
    StartsNone steps := by
  cases misses <;> simp [StartsNone]

theorem Admits.startsNone
    {session : Session}
    {steps : List HostStep}
    (admits : session.Admits steps) :
    StartsNone steps := by
  cases admits <;> simp [StartsNone]

theorem Misses.foundGone
    {session : Session}
    {steps : List HostStep}
    {old : Nat}
    (misses : session.Misses steps)
    (held : session.process = some old) :
    .isRunning old false ∈ steps := by
  cases misses with
  | unused holdsNone => simp [held] at holdsNone
  | gone heldToo => simp [← Option.some.inj (held.symm.trans heldToo)]

theorem Ensures.starts
    {session session' : Session}
    {steps : List HostStep}
    {answer : Except SendFailure Nat}
    (ensures : session.Ensures steps answer session') :
    session.Starts steps session' := by
  cases ensures with
  | kept held => exact .of_none (by simp [StartsNone])
  | @started front shell misses =>
      refine ⟨.inr ⟨shell, ?_, rfl⟩, fun _ _ _ held _ => by simp [misses.foundGone held]⟩
      simp [List.filterMap_append, misses.startsNone.filterMap_started?, HostStep.started?]
  | failed misses =>
      refine ⟨.inl ⟨?_, rfl⟩, fun _ _ _ held _ => by simp [misses.foundGone held]⟩
      simp [List.filterMap_append, misses.startsNone.filterMap_started?, HostStep.started?]

theorem Sends.starts
    {session session' : Session}
    {text : String}
    {steps : List HostStep}
    {answer : Except SendFailure Unit}
    (sends : session.Sends text steps answer session') :
    session.Starts steps session' := by
  cases sends with
  | written ensures => exact ensures.starts.wrap startsNone_nil (by simp [StartsNone])
  | failed ensures => exact ensures.starts

end Session

namespace Executor

theorem startsNone_tidying (path : String) (answer : Except SendFailure Unit) :
    StartsNone (tidying path answer) := by
  intro name started present
  obtain ⟨other, same⟩ := mem_tidying present
  cases same

theorem SendsBlock.starts
    {runner : Runner}
    {block : Block}
    {session session' : Session}
    {steps : List HostStep}
    {result : Except RunFailure RunResult}
    (sends : SendsBlock runner block session steps result session') :
    session.Starts steps session' := by
  cases sends with
  | text isShell sends => exact sends.starts
  | noFile isOther => exact .of_none (startsNone_createFile _ _ _)
  | file isOther sends =>
      exact sends.starts.wrap (startsNone_createFile _ _ _) (startsNone_tidying _ _)

theorem Runs.starts
    {runners : Registry}
    {block : Block}
    {session session' : Session}
    {steps : List HostStep}
    {result : Except RunFailure RunResult}
    (runs : Runs runners session block steps result session') :
    session.Starts steps session' := by
  cases runs with
  | refused held => exact .of_none (by simp [StartsNone])
  | noRunner admits missing => exact .of_none admits.startsNone
  | sent admits found sends =>
      simpa using sends.starts.wrap admits.startsNone startsNone_nil

/-- A run that tries to start a shell has found the one that is held running before. -/
theorem Runs.foundRunning
    {runners : Registry}
    {block : Block}
    {session session' : Session}
    {steps : List HostStep}
    {result : Except RunFailure RunResult}
    {old : Nat}
    {name : String}
    {answer : Except ShellFailure Nat}
    (runs : Runs runners session block steps result session')
    (held : session.process = some old)
    (started : .startShell name answer ∈ steps) :
    .isRunning old true ∈ steps := by
  cases runs with
  | refused heldToo => simp at started
  | noRunner admits missing => exact absurd started (admits.startsNone name answer)
  | sent admits found sends =>
      cases admits with
      | unused holdsNone => simp [held] at holdsNone
      | running heldToo => simp [← Option.some.inj (held.symm.trans heldToo)]

end Executor

/-! ## Why a run fails -/

/-- Whether steps try to start a shell and start none. -/
structure FailsToStart (steps : List HostStep) : Prop where
  tries : ∃ name answer, .startShell name answer ∈ steps
  startsNone : steps.filterMap HostStep.started? = []

theorem FailsToStart.wrap
    {front steps back : List HostStep}
    (fails : FailsToStart steps)
    (startsNone : StartsNone front)
    (startsNoneToo : StartsNone back) :
    FailsToStart (front ++ steps ++ back) where
  tries := by
    obtain ⟨name, answer, tried⟩ := fails.tries
    exact ⟨name, answer, by simp [tried]⟩
  startsNone := by
    simp only [List.filterMap_append, startsNone.filterMap_started?,
      startsNoneToo.filterMap_started?, fails.startsNone, List.append_nil]

/-- A text is not sent if the shell does not take it, or if there is none. -/
theorem Session.Sends.error_cases
    {session session' : Session}
    {text : String}
    {steps : List HostStep}
    {failure : SendFailure}
    (sends : session.Sends text steps (.error failure) session') :
    (∃ reason, failure = .shellGone reason) ∨ FailsToStart steps := by
  generalize same : (Except.error failure : Except SendFailure Unit) = outcome at sends
  cases sends with
  | @written _ _ answer _ ensures =>
      cases answer with
      | ok _ => cases same
      | error reason =>
          cases same
          exact .inl ⟨reason, rfl⟩
  | failed ensures =>
      cases ensures with
      | failed misses =>
          refine .inr ⟨⟨_, _, List.mem_append_right _ List.mem_cons_self⟩, ?_⟩
          simp [List.filterMap_append, misses.startsNone.filterMap_started?, HostStep.started?]

/-- A run fails in an undocumented way only if there is no temporary file or no shell. -/
theorem Executor.Runs.undocumented
    {runners : Registry}
    {block : Block}
    {session session' : Session}
    {steps : List HostStep}
    {failure : RunFailure}
    (runs : Runs runners session block steps (.error failure) session')
    (noMessage : failure.message? = none) :
    (∃ ext content reason, .createFile ext content (.error reason) ∈ steps) ∨
      FailsToStart steps := by
  have ofSend {steps : List HostStep} {answer : Except SendFailure Unit} {text : String}
      (sends : session.Sends text steps answer session')
      (same : .error failure = resultOfSend text answer) :
      FailsToStart steps := by
    match answer with
    | .error reason =>
        rcases sends.error_cases with ⟨text, rfl⟩ | fails
        · cases same
          cases noMessage
        · exact fails
  generalize same : (Except.error failure : Except RunFailure RunResult) = outcome at runs
  cases runs with
  | refused held => cases same; cases noMessage
  | noRunner admits missing => cases same; cases noMessage
  | @sent _ _ runner _ _ admits found sends =>
      cases sends with
      | text isShell sends =>
          have fails := (ofSend sends same).wrap admits.startsNone startsNone_nil
          exact .inr (by simpa using fails)
      | noFile isOther => exact .inl ⟨_, _, _, List.mem_append_right _ List.mem_cons_self⟩
      | @file path _ answer _ isOther sends =>
          have fails := (ofSend sends same).wrap
            (startsNone_createFile runner.ext (fileContent block.code) (.ok path))
            (startsNone_tidying path answer)
          exact .inr (by simpa using fails.wrap admits.startsNone startsNone_nil)

/-! ## While time passes -/

section

variable {State : Type} {host : Host State} {status : State → Nat → ShellStatus}

/-- Whether no shell goes back between two states. -/
def Forward (status : State → Nat → ShellStatus) (before after : State) : Prop :=
  Advances (status before) (status after)

theorem Host.Tracks.takes
    (tracks : host.Tracks status)
    {before after : State}
    {step : HostStep}
    (takes : host.Takes before after step) :
    Advances (status before) (status after) := by
  have moved {Answer : Type} {answer : Answer} {ran : Answer × State}
      (same : ran = (answer, after))
      (advances : Advances (status before) (status ran.2)) :
      Advances (status before) (status after) := by
    rwa [same] at advances
  cases step with
  | createFile ext content answer => exact moved takes (tracks.createFile ext content before)
  | removeFile path => exact (show host.removeFile path before = after from takes) ▸
      tracks.removeFile path before
  | runCommand command limit answer => exact moved takes (tracks.runCommand command limit before)
  | startShell name answer => exact moved takes (tracks.startShell name before)
  | isRunning shell answer => exact moved takes (.of_eq (tracks.asking shell before))
  | writeShell shell text answer => exact moved takes (tracks.writeShell shell text before)
  | endShell shell limit answer => exact moved takes (tracks.endShell shell limit before)

/-- No shell is further in a state of the record than in the state after it. -/
theorem Watched.Goes.forward
    (tracks : host.Tracks status)
    {first last : Watched State}
    {steps : List HostStep}
    (goes : Goes host (Forward status) first steps last)
    (forward : ∀ entry ∈ first.steps, Forward status entry.1 first.state) :
    ∀ entry ∈ last.steps, Forward status entry.1 last.state := by
  induction goes with
  | nil => exact forward
  | @cons watched _ moment after step _ passed takes _ inductionHypothesis =>
      have stepped : Advances (status moment) (status after) := tracks.takes takes
      refine inductionHypothesis fun entry present => ?_
      rcases List.mem_append.mp present with earlier | latest
      · exact (forward entry earlier).trans (Advances.trans passed stepped)
      · rw [List.mem_singleton.mp latest]
        exact stepped

/-- In a run that succeeds, the shell that is held after it has not exited before any step. -/
theorem Executor.Runs.not_exited
    (tracks : host.Tracks status)
    (closesInputs : host.ClosesInputs status)
    {runners : Registry}
    {block : Block}
    {session session' : Session}
    {steps : List HostStep}
    {result : RunResult}
    {state : State}
    {watched : Watched State}
    (goes : Watched.Goes host (Forward status) (.start state) steps watched)
    (runs : Runs runners session block steps (.ok result) session') :
    ∃ shell, session'.process = some shell ∧
      ∀ entry ∈ watched.steps, status entry.1 shell ≠ .exited := by
  obtain ⟨front, shell, text, rfl, holds⟩ := runs.succeeds.written_last
  obtain ⟨between, earlier, writes⟩ := Watched.goes_append_iff.mp goes
  have forward := earlier.forward tracks (by simp [Watched.start])
  cases writes with
  | @cons _ _ moment after _ _ passed takes rest =>
      cases rest
      have isOpen : status moment shell ≠ .exited := by
        intro hasExited
        obtain ⟨reason, fails⟩ := closesInputs shell text moment hasExited
        rw [show host.writeShell shell text moment = (.ok (), after) from takes] at fails
        cases fails
      refine ⟨shell, holds, fun entry present hasExited => ?_⟩
      rcases List.mem_append.mp present with before | latest
      · exact isOpen (((forward entry before).trans passed).exited hasExited)
      · rw [List.mem_singleton.mp latest] at hasExited
        exact isOpen hasExited

/-! ## One run -/

variable {runners : Registry} {block : Block} {session session' : Session}
  {steps : List HostStep} {result : Except RunFailure RunResult} {state : State}
  {watched : Watched State}

/-- A run that tries to start a shell although one is held has lapsed. -/
theorem Executor.Runs.lapses
    (runs : Runs runners session block steps result session')
    {old : Nat}
    {name : String}
    {answer : Except ShellFailure Nat}
    (held : session.process = some old)
    (started : .startShell name answer ∈ steps)
    (seen : watched.steps.map Prod.snd = steps) :
    Passage.lapses ⟨session.process, result, watched.steps⟩ = true := by
  have foundRunning := runs.foundRunning held started
  have foundGone := runs.starts.foundGone old name answer held started
  rw [← seen] at foundRunning foundGone
  exact Passage.lapses_of_looks foundRunning foundGone

/-- The shells that an executor may still start without a lapse. -/
def Session.room (session : Session) : Nat :=
  if session.process.isSome then 0 else 1

/-- A run starts no more shells than it uses up room, unless it lapses. -/
theorem Executor.Runs.room_le
    (runs : Runs runners session block steps result session')
    (seen : watched.steps.map Prod.snd = steps) :
    (Passage.started ⟨session.process, result, watched.steps⟩).length + session'.room ≤
      session.room + (Passage.lapses ⟨session.process, result, watched.steps⟩).toNat := by
  have same : Passage.started ⟨session.process, result, watched.steps⟩ =
      steps.filterMap HostStep.started? := by rw [Passage.started, seen]
  rcases runs.starts.atMostOne with ⟨startsNone, kept⟩ | ⟨shell, startsOne, holds⟩
  · rw [same, startsNone, Session.room, kept, ← Session.room]
    simp
  · have noRoom : session'.room = 0 := by simp [Session.room, holds]
    have present : shell ∈ steps.filterMap HostStep.started? := by simp [startsOne]
    rw [same, startsOne, noRoom]
    cases held : session.process with
    | none => simp [Session.room, held]
    | some old =>
        obtain ⟨step, taken, starts⟩ := List.mem_filterMap.mp present
        match step with
        | .startShell name (.ok _) =>
            have lapses := runs.lapses held taken seen
            rw [held] at lapses
            simp [lapses]

theorem Executor.Runs.isCareful
    (tracks : host.Tracks status)
    (closesInputs : host.ClosesInputs status)
    (goes : Watched.Goes host (Forward status) (.start state) steps watched)
    (runs : Runs runners session block steps result session')
    (noLapse : Passage.lapses ⟨session.process, result, watched.steps⟩ = false) :
    Passage.IsCareful status ⟨session.process, result, watched.steps⟩ := by
  have seen := goes.map_steps
  have startsNone : session.process.isSome = true → StartsNone steps := by
    intro held name answer started
    obtain ⟨old, held⟩ := Option.isSome_iff_exists.mp held
    rw [runs.lapses held started seen] at noLapse
    cases noLapse
  have same : Passage.started ⟨session.process, result, watched.steps⟩ =
      steps.filterMap HostStep.started? := by rw [Passage.started, seen]
  refine ⟨fun held => by rw [same, (startsNone held).filterMap_started?], ?_⟩
  intro shell uses entry present hasExited
  -- The shell that is used is the one that is held after the run.
  have holds : session'.process = some shell := by
    rcases runs.starts.atMostOne with ⟨none, kept⟩ | ⟨other, startsOne, holds⟩
    · rcases uses with held | started
      · exact kept.trans held
      · rw [same, none] at started
        cases started
    · rcases uses with held | started
      · have none := (startsNone (Option.isSome_iff_exists.mpr ⟨shell, held⟩)).filterMap_started?
        simp [none] at startsOne
      · rw [same, startsOne, List.mem_singleton] at started
        exact started ▸ holds
  cases result with
  | ok result =>
      obtain ⟨other, holdsToo, notExited⟩ := runs.not_exited tracks closesInputs goes
      rw [holds, Option.some.injEq] at holdsToo
      exact absurd hasExited (holdsToo ▸ notExited entry present)
  | error failure =>
      refine ⟨failure, rfl, ?_⟩
      cases message : failure.message? with
      | some text => exact .inl rfl
      | none =>
          rcases runs.undocumented message with ⟨ext, content, reason, lacks⟩ | fails
          · exact .inr ⟨ext, content, reason, by rw [seen]; exact lacks⟩
          · obtain ⟨name, answer, tried⟩ := fails.tries
            rcases uses with held | started
            · have held : session.process.isSome = true :=
                Option.isSome_iff_exists.mpr ⟨shell, held⟩
              exact absurd tried (startsNone held name answer)
            · rw [same, fails.startsNone] at started
              cases started

/-! ## Several runs -/

theorem Executor.Course.length_started_le
    {passages : List (Passage State)}
    {first last : Session}
    {final : State}
    (course : Course host (Forward status) runners first state passages last final) :
    (passages.flatMap Passage.started).length ≤
      first.room + (passages.filter Passage.lapses).length := by
  induction course with
  | nil => simp
  | @cons session _ _ _ _ _ _ result watched passages goes runs _ inductionHypothesis =>
      have used := runs.room_le goes.map_steps
      rw [List.flatMap_cons, List.length_append, List.filter_cons]
      cases lapses : Passage.lapses ⟨session.process, result, watched.steps⟩ with
      | true =>
          rw [lapses, Bool.toNat_true] at used
          simp only [if_true, List.length_cons]
          omega
      | false =>
          rw [lapses, Bool.toNat_false] at used
          simp only [Bool.false_eq_true, if_false]
          omega

theorem Executor.Course.isCareful
    (tracks : host.Tracks status)
    (closesInputs : host.ClosesInputs status)
    {passages : List (Passage State)}
    {first last : Session}
    {final : State}
    (course : Course host (Forward status) runners first state passages last final) :
    ∀ passage ∈ passages, passage.lapses = false → passage.IsCareful status := by
  induction course with
  | nil => simp
  | cons goes runs _ inductionHypothesis =>
      intro passage present noLapse
      rcases List.mem_cons.mp present with rfl | later
      · exact runs.isCareful tracks closesInputs goes noLapse
      · exact inductionHypothesis passage later noLapse

/-- While an executor that was just made runs blocks in a shell, with any shells exiting before
any of the steps, it starts at most one shell and one more for each run in which it finds its
shell running at first and not later.  Any other run starts no shell beside the one that is
held, and fails if the shell that it uses has exited before its text is written. -/
theorem Executor.restarts_le_lapses
    (tracks : host.Tracks status)
    (closesInputs : host.ClosesInputs status)
    {executor : Executor}
    (isNew : executor.IsNew)
    (isShell : executor.mode = .shell)
    (start : State)
    (turns : List (Turn State))
    (passing : ∀ turn ∈ turns, ∀ number state,
      Advances (status state) (status (turn.pass number state))) :
    let passages := (runAll host turns executor start).1
    (passages.flatMap Passage.started).length ≤
        1 + (passages.filter Passage.lapses).length ∧
      ∀ passage ∈ passages, passage.lapses = false → passage.IsCareful status := by
  obtain ⟨session, engine⟩ := exists_session isShell
  have unused : session.process = none := by simpa [process?, engine] using isNew.holdsNone
  have forward : ∀ turn ∈ turns, ∀ number state,
      Forward status state (turn.pass number state) := passing
  obtain ⟨last, course, -⟩ := course_runAll turns forward isNew.isOpen engine start
  have room : session.room = 1 := by simp [Session.room, unused]
  exact ⟨room ▸ course.length_started_le, course.isCareful tracks closesInputs⟩

end

/-! ## A run that lapses -/

namespace Machine

/-- A machine whose programs have all exited. -/
def exitAll (machine : Machine) : Machine :=
  { machine with workers := machine.workers.map fun worker => { worker with hasExited := true } }

theorem advances_exitAll (machine : Machine) :
    Advances machine.shellStatus machine.exitAll.shellStatus := by
  intro number
  unfold shellStatus exitAll
  simp only [List.getElem?_map]
  cases machine.workers[number]? with
  | none => exact Nat.le_refl _
  | some worker => simp only [Option.map_some, workerStatus]; split <;> simp

theorem closesInputs : host.ClosesInputs shellStatus := by
  intro shell text machine hasExited
  unfold shellStatus at hasExited
  simp only [host, writeShell]
  cases found : machine.workers[shell]? with
  | none => exact ⟨_, rfl⟩
  | some worker =>
      have exited : worker.hasExited = true := by
        simpa [found, workerStatus] using hasExited
      simp [exited]

/-- Starting a shell while a machine with a shell only is watched, where time brings nothing. -/
theorem launch_watched
    (pass : Nat → Machine → Machine)
    (workers : List Worker)
    (steps : List (Machine × HostStep))
    (process : Option Nat)
    (still : pass steps.length (withWorkers workers) = withWorkers workers) :
    Session.launch (host.watched pass) ⟨Session.defaultShell, process⟩
        ⟨withWorkers workers, steps⟩ =
      (.ok workers.length, ⟨Session.defaultShell, some workers.length⟩,
        ⟨withWorkers (workers ++ [shellWorker "" false]),
          steps ++ [(withWorkers workers,
            .startShell Session.defaultShell (.ok workers.length))]⟩) := by
  simp only [Session.launch, Host.startShell_watched still (startShell_withWorkers workers)]

/-- Writing to the latest shell of such a machine. -/
theorem writeShell_watched
    (pass : Nat → Machine → Machine)
    (workers : List Worker)
    (steps : List (Machine × HostStep))
    {text : String}
    (short : ¬pipeSize < (Shell.ofText text).length)
    (still : pass steps.length (withWorkers (workers ++ [shellWorker "" false])) =
      withWorkers (workers ++ [shellWorker "" false])) :
    (host.watched pass).writeShell workers.length text
        ⟨withWorkers (workers ++ [shellWorker "" false]), steps⟩ =
      (.ok (), ⟨withWorkers (workers ++ [shellWorker text false]),
        steps ++ [(withWorkers (workers ++ [shellWorker "" false]),
          .writeShell workers.length text (.ok ()))]⟩) :=
  Host.writeShell_watched still (writeShell_withWorkers workers short)

end Machine

namespace Moment

open Machine

/-- What is sent of the block that ends its shell. -/
def exitText : String :=
  Executor.compound exitBlock.code

/-- All shells exit after the first step of a run. -/
def exitAfterFirst (number : Nat) (machine : Machine) : Machine :=
  if number = 1 then machine.exitAll else machine

/-- The block that ends its shell is run twice, and the shell exits after the first look of the
second run. -/
def lapsing : List (Turn Machine) :=
  [⟨exitBlock, fun _ machine => machine⟩, ⟨exitBlock, exitAfterFirst⟩]

theorem passing_lapsing :
    ∀ turn ∈ lapsing, ∀ number machine,
      Advances machine.shellStatus (turn.pass number machine).shellStatus := by
  intro turn present number machine
  rcases List.mem_cons.mp present with rfl | later
  · exact Advances.refl _
  · rw [List.mem_singleton.mp later]
    dsimp only [exitAfterFirst]
    split
    · exact advances_exitAll machine
    · exact Advances.refl _

/-- A machine on which one shell was sent the block. -/
def oneShell (hasExited : Bool) : Machine :=
  .withWorkers [shellWorker exitText hasExited]

/-- A machine on which one shell has exited and another was sent a text. -/
def twoShells (text : String) : Machine :=
  .withWorkers [shellWorker exitText true, shellWorker text false]

/-- What is seen of the first run. -/
def firstPassage : Passage Machine where
  held := none
  result := .ok ⟨exitText, none⟩
  steps :=
    [(.withWorkers [], .startShell Session.defaultShell (.ok 0)),
      (.withWorkers [shellWorker "" false], .writeShell 0 exitText (.ok ()))]

/-- What is seen of the second run. -/
def secondPassage : Passage Machine where
  held := some 0
  result := .ok ⟨exitText, none⟩
  steps :=
    [(oneShell false, .isRunning 0 true), (oneShell true, .isRunning 0 false),
      (oneShell true, .startShell Session.defaultShell (.ok 1)),
      (twoShells "", .writeShell 1 exitText (.ok ()))]

theorem run_first :
    (Executor.ofConfig shellConfig).run (Machine.host.watched fun _ machine => machine) exitBlock
        (.start (.withWorkers [])) =
      (firstPassage.result, heldExecutor, ⟨oneShell false, firstPassage.steps⟩) := by
  have launched := launch_watched (fun _ machine => machine) [] [] none rfl
  have written := writeShell_watched (fun _ machine => machine) []
    [(.withWorkers [], .startShell Session.defaultShell (.ok 0))] exitBlock_short rfl
  simp only [List.length_nil, List.nil_append] at launched written
  refine run_exitBlock_of_send rfl rfl rfl (?_ : (Session.ofShell _).send _ _ _ = _)
  simp only [Session.send, Session.ensure_eq_launch, Session.ofShell, Watched.start, launched,
    written]
  rfl

theorem run_second :
    heldExecutor.run (Machine.host.watched exitAfterFirst) exitBlock (.start (oneShell false)) =
      (secondPassage.result,
        { heldExecutor with engine := .shell ⟨Session.defaultShell, some 1⟩ },
        ⟨twoShells exitText, secondPassage.steps⟩) := by
  have isOpen : heldExecutor.isClosed (Machine.host.watched exitAfterFirst)
      (.start (oneShell false)) = (false, ⟨oneShell false, secondPassage.steps.take 1⟩) := rfl
  have looked : (Machine.host.watched exitAfterFirst).isRunning 0
      ⟨oneShell false, secondPassage.steps.take 1⟩ =
      (false, ⟨oneShell true, secondPassage.steps.take 2⟩) := rfl
  have launched : Session.launch (Machine.host.watched exitAfterFirst)
      ⟨Session.defaultShell, some 0⟩ ⟨oneShell true, secondPassage.steps.take 2⟩ =
      (.ok 1, ⟨Session.defaultShell, some 1⟩, ⟨twoShells "", secondPassage.steps.take 3⟩) :=
    launch_watched exitAfterFirst [shellWorker exitText true] _ (some 0) rfl
  have written : (Machine.host.watched exitAfterFirst).writeShell 1 exitText
      ⟨twoShells "", secondPassage.steps.take 3⟩ =
      (.ok (), ⟨twoShells exitText, secondPassage.steps⟩) :=
    writeShell_watched exitAfterFirst [shellWorker exitText true] _ exitBlock_short rfl
  refine run_exitBlock_of_send rfl rfl isOpen (?_ : Session.send _ exitText ⟨_, some 0⟩ _ = _)
  simp only [Session.send, Session.ensure_eq_launch, looked, launched, written]

theorem runAll_lapsing :
    (Executor.runAll Machine.host lapsing (Executor.ofConfig shellConfig) (.withWorkers [])).1 =
      [firstPassage, secondPassage] := by
  simp only [lapsing, Executor.runAll, run_first, run_second]
  rfl

/-- Two shells are started, and the second run succeeds although the shell that the executor
held before has exited before the text is written. -/
theorem not_restarted_once_lapsing :
    (Executor.ofConfig shellConfig).IsNew ∧
    (∀ turn ∈ lapsing, ∀ number machine,
      Advances machine.shellStatus (turn.pass number machine).shellStatus) ∧
    ¬(((Executor.runAll Machine.host lapsing (Executor.ofConfig shellConfig)
        (.withWorkers [])).1.flatMap Passage.started).length ≤ 1) ∧
    ¬∀ passage ∈ (Executor.runAll Machine.host lapsing (Executor.ofConfig shellConfig)
        (.withWorkers [])).1,
      ∀ shell, passage.held = some shell →
        (∃ entry ∈ passage.steps, Machine.shellStatus entry.1 shell = .exited) →
        ∃ failure, passage.result = .error failure := by
  rw [runAll_lapsing]
  refine ⟨Executor.isNew_ofConfig _, passing_lapsing, by decide, fun fails => ?_⟩
  obtain ⟨failure, failed⟩ := fails secondPassage (by simp) 0 rfl
    ⟨(oneShell true, .isRunning 0 false), by simp [secondPassage], rfl⟩
  cases failed

/-- The statement on shells that are started again, for those two runs. -/
theorem restarts_lapsing :
    Machine.host.Tracks Machine.shellStatus ∧
    Machine.host.ClosesInputs Machine.shellStatus ∧
    (Executor.ofConfig shellConfig).IsNew ∧
    (Executor.ofConfig shellConfig).mode = .shell ∧
    (∀ turn ∈ lapsing, ∀ number machine,
      Advances machine.shellStatus (turn.pass number machine).shellStatus) ∧
    ∀ passage ∈ (Executor.runAll Machine.host lapsing (Executor.ofConfig shellConfig)
        (.withWorkers [])).1,
      passage.lapses = false → passage.IsCareful Machine.shellStatus :=
  ⟨Machine.tracks, Machine.closesInputs, Executor.isNew_ofConfig _, rfl, passing_lapsing,
    (Executor.restarts_le_lapses Machine.tracks Machine.closesInputs (Executor.isNew_ofConfig _)
      rfl (.withWorkers []) lapsing passing_lapsing).2⟩

end Moment
end Snippets
