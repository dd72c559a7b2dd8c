import Snippets.Proofs.Execution.Steps

/-!
# Runs that are watched

Between two steps of a run anything may happen that time brings.  A watched host lets time pass
before each step, in a way that is chosen beforehand, and keeps a record of the steps with the
states in which they were taken.  What is seen of a run are the steps of a run by their answers.
-/

namespace Snippets

section

variable {State : Type}

/-- Whether a host takes a step from one state to another. -/
def Host.Takes (host : Host State) (before after : State) : HostStep → Prop
  | .createFile ext content answer => host.createFile ext content before = (answer, after)
  | .removeFile path => host.removeFile path before = after
  | .runCommand command limit answer => host.runCommand command limit before = (answer, after)
  | .startShell name answer => host.startShell name before = (answer, after)
  | .isRunning shell answer => host.isRunning shell before = (answer, after)
  | .writeShell shell text answer => host.writeShell shell text before = (answer, after)
  | .endShell shell limit answer => host.endShell shell limit before = (answer, after)

/-- The state of a host that is watched. -/
structure Watched (State : Type) where
  /-- The state of the host. -/
  state : State
  /-- The steps so far, the first one first, each with the state in which it was taken. -/
  steps : List (State × HostStep)

namespace Watched

/-- A state in which nothing has been seen. -/
def start (state : State) : Watched State :=
  ⟨state, []⟩

/-- Lets time pass, takes a step and keeps a record of it.  What time brings may depend on the
number of steps so far. -/
def take
    {Answer : Type}
    (pass : Nat → State → State)
    (act : State → Answer × State)
    (step : Answer → HostStep)
    (watched : Watched State) : Answer × Watched State :=
  let moment := pass watched.steps.length watched.state
  let (answer, state) := act moment
  (answer, ⟨state, watched.steps ++ [(moment, step answer)]⟩)

/-- Whether some steps lead from one state to another, where time passes before each. -/
inductive Goes (host : Host State) (passes : State → State → Prop) :
    Watched State → List HostStep → Watched State → Prop
  /-- Nothing happens. -/
  | nil {watched : Watched State} : Goes host passes watched [] watched
  /-- A step is taken after some time, and then others are. -/
  | cons
      {watched last : Watched State}
      {moment after : State}
      {step : HostStep}
      {steps : List HostStep}
      (passed : passes watched.state moment)
      (takes : host.Takes moment after step)
      (goes : Goes host passes ⟨after, watched.steps ++ [(moment, step)]⟩ steps last) :
      Goes host passes watched (step :: steps) last

end Watched

/-- A host whose steps are watched, with time that passes before each. -/
def Host.watched (host : Host State) (pass : Nat → State → State) : Host (Watched State) where
  createFile := fun ext content =>
    Watched.take pass (host.createFile ext content) (.createFile ext content)
  removeFile := fun path watched =>
    (Watched.take pass (fun state => ((), host.removeFile path state)) (fun _ => .removeFile path)
      watched).2
  runCommand := fun command limit =>
    Watched.take pass (host.runCommand command limit) (.runCommand command limit)
  startShell := fun name => Watched.take pass (host.startShell name) (.startShell name)
  isRunning := fun shell => Watched.take pass (host.isRunning shell) (.isRunning shell)
  writeShell := fun shell text =>
    Watched.take pass (host.writeShell shell text) (.writeShell shell text)
  endShell := fun shell limit =>
    Watched.take pass (host.endShell shell limit) (.endShell shell limit)

end

/-! ## What is watched -/

section

variable {State : Type} {host : Host State} {passes : State → State → Prop}

namespace Host

variable
    {pass : Nat → State → State}
    {before moment after : State}
    {steps : List (State × HostStep)}
    (passed : pass steps.length before = moment)

include passed

/-! A step that is watched does what it does in the state that time makes of the one before. -/

theorem createFile_watched
    {ext content : String}
    {answer : Except HostFailure String}
    (created : host.createFile ext content moment = (answer, after)) :
    (host.watched pass).createFile ext content ⟨before, steps⟩ =
      (answer, ⟨after, steps ++ [(moment, .createFile ext content answer)]⟩) := by
  simp only [watched, Watched.take, passed, created]

theorem startShell_watched
    {name : String}
    {answer : Except ShellFailure Nat}
    (started : host.startShell name moment = (answer, after)) :
    (host.watched pass).startShell name ⟨before, steps⟩ =
      (answer, ⟨after, steps ++ [(moment, .startShell name answer)]⟩) := by
  simp only [watched, Watched.take, passed, started]

theorem isRunning_watched
    {shell : Nat}
    {answer : Bool}
    (asked : host.isRunning shell moment = (answer, after)) :
    (host.watched pass).isRunning shell ⟨before, steps⟩ =
      (answer, ⟨after, steps ++ [(moment, .isRunning shell answer)]⟩) := by
  simp only [watched, Watched.take, passed, asked]

theorem writeShell_watched
    {shell : Nat}
    {text : String}
    {answer : Except String Unit}
    (written : host.writeShell shell text moment = (answer, after)) :
    (host.watched pass).writeShell shell text ⟨before, steps⟩ =
      (answer, ⟨after, steps ++ [(moment, .writeShell shell text answer)]⟩) := by
  simp only [watched, Watched.take, passed, written]

end Host

namespace Watched

theorem Goes.trans
    {first second third : Watched State}
    {steps more : List HostStep}
    (earlier : Goes host passes first steps second)
    (later : Goes host passes second more third) :
    Goes host passes first (steps ++ more) third := by
  induction earlier with
  | nil => exact later
  | cons passed takes _ inductionHypothesis => exact .cons passed takes (inductionHypothesis later)

/-- Steps lead somewhere if the first of them lead to where the others start. -/
theorem goes_append_iff
    {first last : Watched State}
    {steps more : List HostStep} :
    Goes host passes first (steps ++ more) last ↔
      ∃ between, Goes host passes first steps between ∧ Goes host passes between more last := by
  constructor
  · intro goes
    induction steps generalizing first with
    | nil => exact ⟨first, .nil, goes⟩
    | cons step steps inductionHypothesis =>
        cases goes with
        | cons passed takes goes =>
            obtain ⟨between, front, back⟩ := inductionHypothesis goes
            exact ⟨between, .cons passed takes front, back⟩
  · rintro ⟨between, earlier, later⟩
    exact earlier.trans later

/-- The record has the steps that were taken. -/
theorem Goes.steps_eq
    {first last : Watched State}
    {steps : List HostStep}
    (goes : Goes host passes first steps last) :
    ∃ record, last.steps = first.steps ++ record ∧ record.map Prod.snd = steps := by
  induction goes with
  | nil => exact ⟨[], by simp⟩
  | @cons _ _ moment _ step _ _ _ _ inductionHypothesis =>
      obtain ⟨record, same, mapped⟩ := inductionHypothesis
      exact ⟨(moment, step) :: record, by simp [same], by simp [mapped]⟩

/-- A record that was empty has just the steps that were taken. -/
theorem Goes.map_steps
    {first : State}
    {last : Watched State}
    {steps : List HostStep}
    (goes : Goes host passes (start first) steps last) :
    last.steps.map Prod.snd = steps := by
  obtain ⟨record, same, mapped⟩ := goes.steps_eq
  rw [same, ← mapped]
  rfl

/-- The last step is kept with the state in which it was taken. -/
theorem Goes.taken
    {first last : Watched State}
    {step : HostStep}
    (goes : Goes host passes first [step] last) :
    ∃ moment, passes first.state moment ∧ host.Takes moment last.state step ∧
      last.steps = first.steps ++ [(moment, step)] := by
  cases goes with
  | @cons _ _ moment _ _ _ passed takes rest =>
      cases rest
      exact ⟨moment, passed, takes, rfl⟩

theorem Goes.exists_takes
    {first last : Watched State}
    {step : HostStep}
    {steps : List HostStep}
    (goes : Goes host passes first steps last)
    (present : step ∈ steps) :
    ∃ before after, host.Takes before after step := by
  induction goes with
  | nil => cases present
  | cons passed takes _ inductionHypothesis =>
      rcases List.mem_cons.mp present with rfl | later
      · exact ⟨_, _, takes⟩
      · exact inductionHypothesis later

/-- What holds as time passes and in each step holds from the first state to the last. -/
theorem Goes.relates
    (relation : State → State → Prop)
    (refl : ∀ state, relation state state)
    (trans : ∀ {first second third}, relation first second → relation second third →
      relation first third)
    (passing : ∀ before after, passes before after → relation before after)
    {first last : Watched State}
    {steps : List HostStep}
    (taking : ∀ step ∈ steps, ∀ before after, host.Takes before after step →
      relation before after)
    (goes : Goes host passes first steps last) :
    relation first.state last.state := by
  induction goes with
  | nil => exact refl _
  | cons passed takes _ inductionHypothesis =>
      have onward := inductionHypothesis fun step present =>
        taking step (List.mem_cons_of_mem _ present)
      exact trans (passing _ _ passed) (trans (taking _ List.mem_cons_self _ _ takes) onward)

variable {pass : Nat → State → State}

theorem goes_take
    {Answer : Type}
    {act : State → Answer × State}
    {step : Answer → HostStep}
    {first last : Watched State}
    {answer : Answer}
    (passing : ∀ number state, passes state (pass number state))
    (takes : ∀ before, host.Takes before (act before).2 (step (act before).1))
    (taken : take pass act step first = (answer, last)) :
    Goes host passes first [step answer] last := by
  obtain ⟨rfl, rfl⟩ := Prod.mk.inj taken
  exact .cons (passing _ _) (takes _) .nil

end Watched

open Watched

section

variable {pass : Nat → State → State} (passing : ∀ number state, passes state (pass number state))

include passing

theorem Host.goes_createFile
    {ext content : String}
    {answer : Except HostFailure String}
    {first last : Watched State}
    (created : (host.watched pass).createFile ext content first = (answer, last)) :
    Goes host passes first [.createFile ext content answer] last :=
  goes_take passing (fun _ => rfl) created

theorem Host.goes_startShell
    {name : String}
    {answer : Except ShellFailure Nat}
    {first last : Watched State}
    (started : (host.watched pass).startShell name first = (answer, last)) :
    Goes host passes first [.startShell name answer] last :=
  goes_take passing (fun _ => rfl) started

theorem Host.goes_isRunning
    {shell : Nat}
    {answer : Bool}
    {first last : Watched State}
    (asked : (host.watched pass).isRunning shell first = (answer, last)) :
    Goes host passes first [.isRunning shell answer] last :=
  goes_take passing (fun _ => rfl) asked

theorem Host.goes_writeShell
    {shell : Nat}
    {text : String}
    {answer : Except String Unit}
    {first last : Watched State}
    (written : (host.watched pass).writeShell shell text first = (answer, last)) :
    Goes host passes first [.writeShell shell text answer] last :=
  goes_take passing (fun _ => rfl) written

theorem Host.goes_endShell
    {shell : Nat}
    {limit : Option Seconds}
    {answer : Except HostFailure Unit}
    {first last : Watched State}
    (ended : (host.watched pass).endShell shell limit first = (answer, last)) :
    Goes host passes first [.endShell shell limit answer] last :=
  goes_take passing (fun _ => rfl) ended

theorem Host.goes_removeFile (path : String) (first : Watched State) :
    Goes host passes first [.removeFile path] ((host.watched pass).removeFile path first) :=
  .cons (passing _ _) rfl .nil

/-! ## Runs that are watched -/

theorem Executor.goes_cleanUp (path : String) (first : Watched State) :
    Goes host passes first [.removeFile path, .removeFile (artifact path)]
      (cleanUp (host.watched pass) path first) :=
  (Host.goes_removeFile passing path first).trans
    (Host.goes_removeFile passing (artifact path) _)

theorem Session.goes_launch
    {session : Session}
    {steps : List HostStep}
    {first last : Watched State}
    (misses : session.Misses steps)
    (goes : Goes host passes first steps last) :
    ∃ steps,
      Goes host passes first steps (session.launch (host.watched pass) last).2.2 ∧
      session.Ensures steps (session.launch (host.watched pass) last).1
        (session.launch (host.watched pass) last).2.1 := by
  unfold launch
  rcases started : (host.watched pass).startShell session.shell last with ⟨answer, after⟩
  have more := goes.trans (Host.goes_startShell passing started)
  match answer with
  | .ok shell => exact ⟨_, more, .started misses⟩
  | .error .missing => exact ⟨_, more, .failed misses⟩
  | .error (.other failure) => exact ⟨_, more, .failed misses⟩

theorem Session.goes_ensure (session : Session) (first : Watched State) :
    ∃ steps,
      Goes host passes first steps (session.ensure (host.watched pass) first).2.2 ∧
      session.Ensures steps (session.ensure (host.watched pass) first).1
        (session.ensure (host.watched pass) first).2.1 := by
  rw [ensure_eq_launch]
  cases held : session.process with
  | none => exact goes_launch passing (.unused held) .nil
  | some shell =>
      rcases asked : (host.watched pass).isRunning shell first with ⟨running, after⟩
      have goes := Host.goes_isRunning passing asked
      simp only [asked]
      cases running with
      | true => exact ⟨_, goes, .kept held⟩
      | false => exact goes_launch passing (.gone held) goes

theorem Session.goes_send
    (session : Session)
    (text : String)
    (first : Watched State) :
    ∃ steps,
      Goes host passes first steps (session.send (host.watched pass) text first).2.2 ∧
      session.Sends text steps (session.send (host.watched pass) text first).1
        (session.send (host.watched pass) text first).2.1 := by
  obtain ⟨steps, goes, ensures⟩ := goes_ensure passing session first
  unfold send
  rcases ensured : session.ensure (host.watched pass) first with ⟨answer, session', after⟩
  rw [ensured] at goes ensures
  match answer with
  | .error reason => exact ⟨steps, goes, .failed ensures⟩
  | .ok shell =>
      rcases written : (host.watched pass).writeShell shell text after with ⟨outcome, last⟩
      have more := goes.trans (Host.goes_writeShell passing written)
      simp only [written]
      cases outcome with
      | ok _ => exact ⟨_, more, .written ensures⟩
      | error reason => exact ⟨_, more, .written ensures⟩

theorem Session.goes_close
    (session : Session)
    (limit : Option Seconds)
    (first : Watched State) :
    ∃ steps,
      Goes host passes first steps (session.close (host.watched pass) limit first).2.2 ∧
      session.Ends limit steps (session.close (host.watched pass) limit first).1 := by
  cases held : session.process with
  | none =>
      rw [close_of_unused limit held]
      exact ⟨[], .nil, .unused held⟩
  | some shell =>
      rcases ended : (host.watched pass).endShell shell limit first with ⟨answer, after⟩
      have goes := Host.goes_endShell passing ended
      simp only [close, held, ended]
      exact ⟨_, goes, .ended held⟩

namespace Executor

theorem goes_runShell
    (runner : Runner)
    (block : Block)
    (session : Session)
    (first : Watched State) :
    ∃ steps,
      Goes host passes first steps
        (runShell (host.watched pass) runner block session first).2.2 ∧
      SendsBlock runner block session steps
        (runShell (host.watched pass) runner block session first).1
        (runShell (host.watched pass) runner block session first).2.1 := by
  unfold runShell
  split
  · rename_i isShell
    obtain ⟨steps, goes, sends⟩ := Session.goes_send passing session (compound block.code) first
    rw [sendText_eq]
    exact ⟨steps, goes, .text isShell sends⟩
  · rename_i isOther
    rcases created : (host.watched pass).createFile runner.ext (fileContent block.code) first with
      ⟨answer, after⟩
    have creates := Host.goes_createFile passing created
    cases answer with
    | error failure => exact ⟨_, creates, .noFile isOther⟩
    | ok path =>
        obtain ⟨steps, goes, sends⟩ :=
          Session.goes_send passing session (sessionCommand runner path) after
        rcases sent : session.send (host.watched pass) (sessionCommand runner path) after with
          ⟨outcome, session', last⟩
        rw [sent] at goes sends
        have removes : Goes host passes last [.removeFile path, .removeFile (artifact path)]
            (cleanUp (host.watched pass) path last) :=
          goes_cleanUp passing path last
        have file := SendsBlock.file isOther sends
        simp only [sendText_eq, sent]
        match outcome with
        | .ok () => exact ⟨_, (creates.trans goes).trans .nil, file⟩
        | .error (.other failure) => exact ⟨_, (creates.trans goes).trans .nil, file⟩
        | .error (.shellMissing name) => exact ⟨_, (creates.trans goes).trans removes, file⟩
        | .error (.shellGone reason) => exact ⟨_, (creates.trans goes).trans removes, file⟩

/-- Whether a run that was watched took the steps of a run by their answers. -/
def IsWatched
    (host : Host State)
    (passes : State → State → Prop)
    (executor : Executor)
    (session : Session)
    (block : Block)
    (first : Watched State)
    (ran : Except RunFailure RunResult × Executor × Watched State) : Prop :=
  ∃ steps session',
    Goes host passes first steps ran.2.2 ∧
    Runs executor.runners session block steps ran.1 session' ∧
    ran.2.1 = { executor with engine := .shell session' }

theorem isWatched_of_admits
    {executor : Executor}
    {session : Session}
    {block : Block}
    {steps : List HostStep}
    {first after : Watched State}
    (engine : executor.engine = .shell session)
    (goes : Goes host passes first steps after)
    (admits : session.Admits steps)
    (asked : executor.isClosed (host.watched pass) first = (false, after)) :
    IsWatched host passes executor session block first
      (executor.run (host.watched pass) block first) := by
  unfold run
  simp only [asked, engine]
  cases found : executor.runners.get? block.language with
  | none => exact ⟨steps, session, goes, .noRunner admits found, by rw [← engine]⟩
  | some runner =>
      obtain ⟨more, sent, sends⟩ := goes_runShell passing runner block session after
      exact ⟨steps ++ more, _, goes.trans sent, .sent admits found sends, rfl⟩

theorem isWatched_run
    {executor : Executor}
    {session : Session}
    (isOpen : executor.closed = false)
    (engine : executor.engine = .shell session)
    (block : Block)
    (first : Watched State) :
    IsWatched host passes executor session block first
      (executor.run (host.watched pass) block first) := by
  have asks : executor.isClosed (host.watched pass) first =
      session.hasEnded (host.watched pass) first := by
    simp [isClosed, isOpen, engine]
  cases held : session.process with
  | none =>
      have asked : executor.isClosed (host.watched pass) first = (false, first) := by
        simp [asks, Session.hasEnded, held]
      exact isWatched_of_admits passing engine .nil (.unused held) asked
  | some shell =>
      rcases running : (host.watched pass).isRunning shell first with ⟨answer, after⟩
      have goes := Host.goes_isRunning passing running
      simp only [Session.hasEnded, held, running] at asks
      cases answer with
      | true => exact isWatched_of_admits passing engine goes (.running held) asks
      | false =>
          rw [run_of_isClosed (congrArg Prod.fst asks) block, asks]
          exact ⟨_, session, goes, .refused held, by rw [← engine]⟩

theorem goes_close
    {executor : Executor}
    {session : Session}
    (engine : executor.engine = .shell session)
    (limit : Option Seconds)
    (first : Watched State) :
    ∃ steps,
      Goes host passes first steps (executor.close (host.watched pass) limit first).2.2 ∧
      session.Ends limit steps (executor.close (host.watched pass) limit first).1 := by
  obtain ⟨steps, goes, ends⟩ := Session.goes_close passing session limit first
  unfold close
  simp only [engine]
  rcases closing : session.close (host.watched pass) limit first with ⟨answer, session', after⟩
  rw [closing] at goes ends
  cases answer with
  | ok _ => exact ⟨steps, goes, ends⟩
  | error failure => exact ⟨steps, goes, ends⟩

end Executor

end

/-! ## Several runs -/

/-- A block to run, and what time brings before each step of the run. -/
structure Turn (State : Type) where
  /-- The block. -/
  block : Block
  /-- The state that time makes of one, by the number of steps that the run has taken. -/
  pass : Nat → State → State

/-- Whether time brings a state after another in a turn. -/
def Turn.Brings (turn : Turn State) (before after : State) : Prop :=
  ∃ number, turn.pass number before = after

/-- What was seen of a run. -/
structure Passage (State : Type) where
  /-- The shell that the executor held before. -/
  held : Option Nat
  /-- The result. -/
  result : Except RunFailure RunResult
  /-- The steps, the first one first, each with the state in which it was taken. -/
  steps : List (State × HostStep)

namespace Executor

/-- Runs blocks one after the other and watches each run. -/
def runAll (host : Host State) :
    List (Turn State) → Executor → State → List (Passage State) × Executor × State
  | [], executor, state => ([], executor, state)
  | turn :: turns, executor, state =>
      let (result, after, watched) :=
        executor.run (host.watched turn.pass) turn.block (.start state)
      let (passages, last) := runAll host turns after watched.state
      (⟨executor.process?, result, watched.steps⟩ :: passages, last)

/-- Whether an executor with the given runners may be seen running blocks one after the other on
the way from one session and state to others. -/
inductive Course (host : Host State) (passes : State → State → Prop) (runners : Registry) :
    Session → State → List (Passage State) → Session → State → Prop
  /-- Nothing is run. -/
  | nil {session : Session} {state : State} :
      Course host passes runners session state [] session state
  /-- A block is run, and then others are. -/
  | cons
      {session session' last : Session}
      {state final : State}
      {block : Block}
      {steps : List HostStep}
      {result : Except RunFailure RunResult}
      {watched : Watched State}
      {passages : List (Passage State)}
      (goes : Goes host passes (.start state) steps watched)
      (runs : Runs runners session block steps result session')
      (rest : Course host passes runners session' watched.state passages last final) :
      Course host passes runners session state
        (⟨session.process, result, watched.steps⟩ :: passages) last final

/-- What is seen of runs one after the other is what is seen of the first and then of the others,
which start in the session and the state that the first has left. -/
theorem exists_runAll_cons_eq
    {turn : Turn State}
    (passing : ∀ number state, passes state (turn.pass number state))
    {executor : Executor}
    {session : Session}
    (isOpen : executor.closed = false)
    (engine : executor.engine = .shell session)
    (turns : List (Turn State))
    (state : State) :
    ∃ steps result session' watched,
      Goes host passes (.start state) steps watched ∧
      Runs executor.runners session turn.block steps result session' ∧
      runAll host (turn :: turns) executor state =
        let later := runAll host turns { executor with engine := .shell session' } watched.state
        (⟨session.process, result, watched.steps⟩ :: later.1, later.2) := by
  obtain ⟨steps, session', goes, runs, left⟩ :=
    isWatched_run passing isOpen engine turn.block (.start state)
  have held : executor.process? = session.process := by simp [process?, engine]
  rcases ran : executor.run (host.watched turn.pass) turn.block (.start state) with
    ⟨result, after, watched⟩
  rw [ran] at goes runs left
  subst left
  refine ⟨steps, result, session', watched, goes, runs, ?_⟩
  simp only [runAll, ran, held]

theorem course_runAll
    (turns : List (Turn State))
    (passing : ∀ turn ∈ turns, ∀ number state, passes state (turn.pass number state))
    {executor : Executor}
    {session : Session}
    (isOpen : executor.closed = false)
    (engine : executor.engine = .shell session)
    (state : State) :
    ∃ last,
      Course host passes executor.runners session state (runAll host turns executor state).1 last
        (runAll host turns executor state).2.2 ∧
      (runAll host turns executor state).2.1.engine = .shell last := by
  induction turns generalizing executor session state with
  | nil => exact ⟨session, .nil, engine⟩
  | cons turn turns inductionHypothesis =>
      obtain ⟨steps, result, session', watched, goes, runs, same⟩ :=
        exists_runAll_cons_eq (passing turn List.mem_cons_self) isOpen engine turns state
      have openAfter : { executor with engine := .shell session' }.closed = false := isOpen
      obtain ⟨last, rest, lastEngine⟩ := inductionHypothesis
        (fun other isOther => passing other (List.mem_cons_of_mem _ isOther)) openAfter rfl
        watched.state
      rw [same]
      exact ⟨last, .cons goes runs rest, lastEngine⟩

end Executor
end
end Snippets
