import Snippets.Execution.Executor
import Snippets.Proofs.Execution.Shells

/-!
# How executors end

An executor has ended once it was closed or the shell that it holds has exited.  Only two
things keep this from being final.  A run on an executor that has ended is refused, so it
starts no shell.  A close makes the end final if it succeeds; if it fails, the shell is
forgotten although the executor is not marked as closed, and what had ended is open again.
-/

namespace Snippets
namespace Executor

open ShellStatus (Advances)

variable {State : Type} {host : Host State} {status : State → Nat → ShellStatus}

/-- The shell that an executor holds. -/
def process? (executor : Executor) : Option Nat :=
  match executor.engine with
  | .file => none
  | .shell session => session.process

/-- Whether an executor has all that a configuration asks for. -/
structure IsOf (executor : Executor) (config : Config) : Prop where
  source : executor.config = some config
  runners : executor.runners = config.registry
  mode : executor.mode = config.mode
  limit : executor.limit = config.timeout.map fun seconds => .whole seconds

/-- Whether an executor holds only a shell that was started, and none once it is closed. -/
structure Sound
    (status : State → Nat → ShellStatus)
    (executor : Executor)
    (state : State) : Prop where
  released : executor.closed = true → executor.process? = none
  started : ∀ shell, executor.process? = some shell → status state shell ≠ .unused

/-- Whether an executor was closed or the shell that it holds has exited. -/
def Ended
    (status : State → Nat → ShellStatus)
    (executor : Executor)
    (state : State) : Prop :=
  executor.closed = true ∨ ∃ shell, executor.process? = some shell ∧ status state shell = .exited

/-- Whether an executor is open and holds no shell, as one that was just made. -/
structure IsNew (executor : Executor) : Prop where
  isOpen : executor.closed = false
  holdsNone : executor.process? = none

/-- What a step may make of an executor and of the state: no shell goes back, and the
executor stays sound, stays marked as closed and keeps what its configuration asked for. -/
structure Leads
    (status : State → Nat → ShellStatus)
    (executor : Executor)
    (state : State)
    (executor' : Executor)
    (state' : State) : Prop where
  advances : Advances (status state) (status state')
  sound : executor.Sound status state → executor'.Sound status state'
  closed : executor.closed = true → executor'.closed = true
  isOf : ∀ config, executor.IsOf config → executor'.IsOf config

/-- An executor that runs blocks in a shell has a session. -/
theorem exists_session
    {executor : Executor}
    (isShell : executor.mode = .shell) :
    ∃ session, executor.engine = .shell session := by
  cases engine : executor.engine with
  | file => simp [mode, engine, Engine.mode] at isShell
  | shell session => exact ⟨session, rfl⟩

/-! ## As time passes -/

theorem Sound.advances
    {executor : Executor}
    {before after : State}
    (sound : executor.Sound status before)
    (advances : Advances (status before) (status after)) :
    executor.Sound status after :=
  ⟨sound.released, fun shell held => advances.started (sound.started shell held)⟩

/-- An executor that is left alone never opens again. -/
theorem Ended.advances
    {executor : Executor}
    {before after : State}
    (ended : executor.Ended status before)
    (advances : Advances (status before) (status after)) :
    executor.Ended status after := by
  rcases ended with closed | ⟨shell, held, hasExited⟩
  · exact .inl closed
  · exact .inr ⟨shell, held, advances.exited hasExited⟩

theorem Leads.of_advances
    {executor : Executor}
    {state state' : State}
    (advances : Advances (status state) (status state')) :
    Leads status executor state executor state' :=
  ⟨advances, fun sound => sound.advances advances, fun closed => closed, fun _ isOf => isOf⟩

theorem Leads.trans
    {first second third : Executor}
    {state state' state'' : State}
    (earlier : Leads status first state second state')
    (later : Leads status second state' third state'') :
    Leads status first state third state'' where
  advances := earlier.advances.trans later.advances
  sound := fun sound => later.sound (earlier.sound sound)
  closed := fun closed => later.closed (earlier.closed closed)
  isOf := fun config isOf => later.isOf config (earlier.isOf config isOf)

/-- An executor that is not closed and whose session goes on is led where its session is. -/
theorem Leads.of_session
    {executor : Executor}
    {session session' : Session}
    {state state' : State}
    (isShell : executor.engine = .shell session)
    (isOpen : executor.closed = false)
    (leads : Session.Leads status session state session' state') :
    Leads status executor state { executor with engine := .shell session' } state' where
  advances := leads.advances
  sound := fun sound => by
    have started : session.Started status state := by
      intro shell held
      exact sound.started shell (by simpa [process?, isShell] using held)
    exact ⟨fun closed => by simp [isOpen] at closed, leads.started started⟩
  closed := fun closed => closed
  isOf := fun _ isOf =>
    ⟨isOf.source, isOf.runners, by rw [← isOf.mode, mode, mode, isShell]; rfl, isOf.limit⟩

/-! ## Whether an executor is closed -/

theorem isClosed_answer
    (tracks : host.Tracks status)
    (executor : Executor)
    (state : State) :
    (executor.isClosed host state).1 =
      (executor.closed ||
        executor.process?.any fun shell => decide (status state shell ≠ .running)) := by
  unfold isClosed process?
  cases closed : executor.closed with
  | true => simp
  | false =>
      cases engine : executor.engine with
      | file => simp
      | shell session => simpa using Session.hasEnded_answer tracks session state

/-- Asking whether an executor is closed changes no shell. -/
theorem isClosed_status
    (tracks : host.Tracks status)
    (executor : Executor)
    (state : State) :
    status (executor.isClosed host state).2 = status state := by
  unfold isClosed
  split
  · rfl
  · split
    · rfl
    · exact Session.hasEnded_status tracks _ state

/-- Asking whether an executor is closed asks at most whether a shell is running. -/
theorem isClosed_state
    (host : Host State)
    (executor : Executor)
    (state : State) :
    (executor.isClosed host state).2 = state ∨
      ∃ shell, (executor.isClosed host state).2 = (host.isRunning shell state).2 := by
  unfold isClosed
  split
  · exact .inl rfl
  · split
    · exact .inl rfl
    · rename_i session _
      cases held : session.process with
      | none => exact .inl (by simp [Session.hasEnded, held])
      | some shell => exact .inr ⟨shell, by simp [Session.hasEnded, held]⟩

/-- An executor is closed exactly if it has ended. -/
theorem isClosed_iff_ended
    (tracks : host.Tracks status)
    {executor : Executor}
    {state : State}
    (sound : executor.Sound status state) :
    (executor.isClosed host state).1 = true ↔ executor.Ended status state := by
  rw [isClosed_answer tracks, Ended, Bool.or_eq_true]
  refine or_congr Iff.rfl ?_
  cases held : executor.process? with
  | none => simp
  | some shell =>
      have started := sound.started shell held
      cases known : status state shell with
      | unused => exact absurd known started
      | running => simp [known]
      | exited => simp [known]

/-! ## New executors -/

theorem isNew_make
    (runners : Registry)
    (mode : RunMode)
    (limit : Option Seconds)
    (shell : String) :
    (make runners mode limit shell).IsNew where
  isOpen := rfl
  holdsNone := by cases mode <;> rfl

/-- An executor that is as good as new is not closed, and nobody has to ask the host. -/
theorem IsNew.isClosed
    {executor : Executor}
    (isNew : executor.IsNew)
    (state : State) :
    executor.isClosed host state = (false, state) := by
  have held := isNew.holdsNone
  unfold process? at held
  unfold Executor.isClosed
  rw [isNew.isOpen]
  cases engine : executor.engine with
  | file => rfl
  | shell session =>
      rw [engine] at held
      simp [Session.hasEnded, held]

theorem IsNew.sound
    {executor : Executor}
    (isNew : executor.IsNew)
    (state : State) :
    executor.Sound status state := by
  constructor <;> simp [isNew.isOpen, isNew.holdsNone]

theorem isOf_ofConfig (config : Config) : (ofConfig config).IsOf config where
  source := rfl
  runners := rfl
  mode := by
    cases chosen : config.mode <;>
      simp [ofConfig, make, mode, chosen, Engine.ofMode, Engine.mode]
  limit := by cases chosen : config.timeout <;> simp [ofConfig, make, chosen]

@[simp] theorem closed_ofConfig (config : Config) : (ofConfig config).closed = false := rfl

theorem isNew_ofConfig (config : Config) : (ofConfig config).IsNew where
  isOpen := rfl
  holdsNone := (isNew_make config.registry config.mode none Session.defaultShell).holdsNone

@[simp] theorem process?_ofConfig (config : Config) : (ofConfig config).process? = none :=
  (isNew_ofConfig config).holdsNone

theorem sound_ofConfig (config : Config) (state : State) :
    (ofConfig config).Sound status state :=
  (isNew_ofConfig config).sound state

/-- A new executor is open. -/
theorem isClosed_ofConfig
    (tracks : host.Tracks status)
    (config : Config)
    (state : State) :
    ((ofConfig config).isClosed host state).1 = false := by
  simp [isClosed_answer tracks]

/-! ## Runs -/

theorem cleanUp_advances
    (tracks : host.Tracks status)
    (path : String)
    (state : State) :
    Advances (status state) (status (cleanUp host path state)) :=
  (tracks.removeFile path state).trans (tracks.removeFile (artifact path) _)

theorem runFile_advances
    (tracks : host.Tracks status)
    (limit : Option Seconds)
    (runner : Runner)
    (code : String)
    (state : State) :
    Advances (status state) (status (runFile host limit runner code state).2) := by
  have creates := tracks.createFile runner.ext (fileContent code) state
  unfold runFile
  rcases created : host.createFile runner.ext (fileContent code) state with ⟨answer, after⟩
  rw [created] at creates
  cases answer with
  | error failure => exact creates
  | ok path =>
      refine creates.trans ((tracks.runCommand (runner.render path) limit after).trans ?_)
      exact cleanUp_advances tracks path _

theorem leads_sendText
    (tracks : host.Tracks status)
    (text : String)
    (session : Session)
    (state : State) :
    Session.Leads status session state (sendText host text session state).2.1
      (sendText host text session state).2.2 := by
  have leads := Session.leads_send tracks text session state
  unfold sendText
  rcases sent : session.send host text state with ⟨answer, session', after⟩
  rw [sent] at leads
  cases answer with
  | error failure => exact leads
  | ok _ => exact leads

theorem leads_runShell
    (tracks : host.Tracks status)
    (runner : Runner)
    (block : Block)
    (session : Session)
    (state : State) :
    Session.Leads status session state (runShell host runner block session state).2.1
      (runShell host runner block session state).2.2 := by
  unfold runShell
  split
  · exact leads_sendText tracks _ session state
  · have creates := tracks.createFile runner.ext (fileContent block.code) state
    rcases created : host.createFile runner.ext (fileContent block.code) state with ⟨answer, after⟩
    rw [created] at creates
    cases answer with
    | error failure => exact .of_advances creates
    | ok path =>
        have leads := (Session.Leads.of_advances creates).trans
          (leads_sendText tracks (sessionCommand runner path) session after)
        rcases sent : sendText host (sessionCommand runner path) session after with
          ⟨outcome, session', last⟩
        rw [sent] at leads
        simp only [sent]
        match outcome with
        | .ok result => exact leads
        | .error (.host failure) => exact leads
        | .error .closed | .error (.noRunner _ _) | .error (.timedOut _ _)
        | .error (.notStarted _ _) | .error (.shellMissing _) | .error (.shellGone _) =>
            exact leads.trans (.of_advances (cleanUp_advances tracks path last))

/-- A run on a closed executor is refused and leaves the executor as it is. -/
theorem run_of_isClosed
    {executor : Executor}
    {state : State}
    (closed : (executor.isClosed host state).1 = true)
    (block : Block) :
    executor.run host block state = (.error .closed, executor, (executor.isClosed host state).2) := by
  unfold run
  rcases asked : executor.isClosed host state with ⟨answer, after⟩
  rw [asked] at closed
  cases closed
  rfl

theorem closed_of_isClosed_false
    {executor : Executor}
    {state : State}
    (isOpen : (executor.isClosed host state).1 = false) :
    executor.closed = false := by
  cases closed : executor.closed with
  | false => rfl
  | true => simp [isClosed, closed] at isOpen

theorem leads_run
    (tracks : host.Tracks status)
    (block : Block)
    (executor : Executor)
    (state : State) :
    Leads status executor state (executor.run host block state).2.1
      (executor.run host block state).2.2 := by
  have same := isClosed_status tracks executor state
  unfold run
  rcases asked : executor.isClosed host state with ⟨answer, after⟩
  rw [asked] at same
  have waits : Leads status executor state executor after := .of_advances (.of_eq same)
  cases answer with
  | true => exact waits
  | false =>
      refine waits.trans ?_
      cases executor.runners.get? block.language with
      | none => exact .of_advances (Advances.refl _)
      | some runner =>
          cases engine : executor.engine with
          | file =>
              exact .of_advances (runFile_advances tracks executor.limit runner block.code after)
          | shell session =>
              have isOpen := closed_of_isClosed_false (congrArg Prod.fst asked)
              exact .of_session engine isOpen (leads_runShell tracks runner block session after)

/-- A run neither marks an executor as closed nor takes the mark away. -/
theorem closed_run
    (host : Host State)
    (block : Block)
    (executor : Executor)
    (state : State) :
    (executor.run host block state).2.1.closed = executor.closed := by
  unfold run
  rcases executor.isClosed host state with ⟨answer, after⟩
  cases answer with
  | true => rfl
  | false =>
      cases executor.runners.get? block.language with
      | none => rfl
      | some runner => cases executor.engine <;> rfl

/-- A run changes nothing that the configuration of an executor asked for. -/
theorem run_isOf
    {executor : Executor}
    {config : Config}
    (isOf : executor.IsOf config)
    (host : Host State)
    (block : Block)
    (state : State) :
    (executor.run host block state).2.1.IsOf config := by
  have sameMode := isOf.mode
  unfold run
  rcases executor.isClosed host state with ⟨answer, after⟩
  cases answer with
  | true => exact isOf
  | false =>
      cases executor.runners.get? block.language with
      | none => exact isOf
      | some runner =>
          cases engine : executor.engine with
          | file => exact isOf
          | shell session =>
              rw [mode, engine] at sameMode
              exact ⟨isOf.source, isOf.runners, sameMode, isOf.limit⟩

/-- A run leaves the executor the shell that it holds, unless that shell exits meanwhile. -/
theorem process?_run
    (tracks : host.Tracks status)
    {executor : Executor}
    {state : State}
    {shell : Nat}
    {block : Block}
    (sound : executor.Sound status state)
    (held : executor.process? = some shell)
    (stays : status state shell = .running →
      status (executor.run host block state).2.2 shell = .running) :
    (executor.run host block state).2.1.process? = some shell := by
  cases closed : (executor.isClosed host state).1 with
  | true => rw [run_of_isClosed closed]; exact held
  | false =>
      have isOpen := closed_of_isClosed_false closed
      have isRunning : status state shell = .running := by
        simpa [isClosed_answer tracks, held, isOpen] using closed
      have runsOn := stays isRunning
      have same := isClosed_status tracks executor state
      unfold run at runsOn ⊢
      rcases asked : executor.isClosed host state with ⟨answer, after⟩
      rw [asked] at closed same
      subst closed
      simp only [asked] at runsOn ⊢
      cases found : executor.runners.get? block.language with
      | none => exact held
      | some runner =>
          cases engine : executor.engine with
          | file => simp [process?, engine] at held
          | shell session =>
              have heldBySession : session.process = some shell := by
                simpa [process?, engine] using held
              have started : session.Started status after := by
                intro other isHeld
                rw [same]
                exact sound.started other (by simpa [process?, engine] using isHeld)
              simp only [found, engine] at runsOn ⊢
              exact (leads_runShell tracks runner block session after).kept started shell
                heldBySession runsOn

/-! ## Closing -/

/-- An executor that was told to close holds no shell, also if the close failed. -/
theorem close_process?
    (limit : Option Seconds)
    (executor : Executor)
    (state : State) :
    (executor.close host limit state).2.1.process? = none := by
  unfold close
  cases engine : executor.engine with
  | file => simp [process?]
  | shell session =>
      have released : (session.close host limit state).2.1.process = none :=
        Session.close_process limit session state
      rcases closing : session.close host limit state with ⟨answer, session', after⟩
      rw [closing] at released
      simp only [closing]
      cases answer with
      | ok _ => exact released
      | error failure => exact released

/-- An executor is marked as closed if it was before or if the close does not fail. -/
theorem close_closed_iff
    (limit : Option Seconds)
    (executor : Executor)
    (state : State) :
    (executor.close host limit state).2.1.closed = true ↔
      executor.closed = true ∨ (executor.close host limit state).1 = .ok () := by
  unfold close
  cases executor.engine with
  | file => simp
  | shell session =>
      rcases closing : session.close host limit state with ⟨answer, session', after⟩
      simp only [closing]
      cases answer with
      | ok _ => simp
      | error failure => simp

/-- A close fails only where the wait for the shell of a session does. -/
theorem endShell_of_close
    {executor own : Executor}
    {limit : Option Seconds}
    {state last : State}
    {failure : HostFailure}
    (closing : executor.close host limit state = (.error failure, own, last)) :
    executor.mode = .shell ∧
      ∃ shell, host.endShell shell limit state = (.error failure, last) := by
  unfold close at closing
  cases engine : executor.engine with
  | file =>
      rw [engine] at closing
      cases closing
  | shell session =>
      simp only [engine, Session.close] at closing
      cases held : session.process with
      | none =>
          rw [held] at closing
          cases closing
      | some shell =>
          rcases ended : host.endShell shell limit state with ⟨answer, after⟩
          simp only [held, ended] at closing
          cases answer with
          | ok _ => cases closing
          | error reason =>
              cases closing
              exact ⟨by rw [mode, engine]; rfl, shell, ended⟩

/-- Closing changes nothing that the configuration of an executor asked for. -/
theorem close_isOf
    {executor : Executor}
    {config : Config}
    (isOf : executor.IsOf config)
    (limit : Option Seconds)
    (state : State) :
    (executor.close host limit state).2.1.IsOf config := by
  have sameMode := isOf.mode
  unfold close
  cases engine : executor.engine with
  | file => exact ⟨isOf.source, isOf.runners, by rw [← sameMode, mode, mode, engine], isOf.limit⟩
  | shell session =>
      rcases closing : session.close host limit state with ⟨answer, session', after⟩
      have stays : Engine.mode (.shell session') = config.mode := by
        rw [← sameMode, mode, engine]
        rfl
      simp only [closing]
      cases answer with
      | ok _ => exact ⟨isOf.source, isOf.runners, stays, isOf.limit⟩
      | error failure => exact ⟨isOf.source, isOf.runners, stays, isOf.limit⟩

/-- An executor of a configuration that has run a block and cannot be closed is as good as a new
one.  It runs blocks in a session, and the wait for the shell has failed. -/
theorem isNew_of_close
    {config : Config}
    {block : Block}
    {result : Except RunFailure RunResult}
    {executor own : Executor}
    {limit : Option Seconds}
    {state between last : State}
    {failure : HostFailure}
    (ran : (ofConfig config).run host block state = (result, executor, between))
    (closing : executor.close host limit between = (.error failure, own, last)) :
    own.IsNew ∧ own.IsOf config ∧ config.mode = .shell ∧
      ∃ shell, host.endShell shell limit between = (.error failure, last) := by
  have isOpen := closed_run host block (ofConfig config) state
  have isOf := run_isOf (isOf_ofConfig config) host block state
  rw [ran] at isOpen isOf
  have marked : (executor.close host limit between).2.1.closed = true ↔
      executor.closed = true ∨ (executor.close host limit between).1 = .ok () :=
    close_closed_iff limit executor between
  have released : (executor.close host limit between).2.1.process? = none :=
    close_process? limit executor between
  have stays : (executor.close host limit between).2.1.IsOf config :=
    close_isOf isOf limit between
  rw [closing] at marked released stays
  obtain ⟨isShell, shell, ended⟩ := endShell_of_close closing
  rw [isOpen] at marked
  exact ⟨⟨by simpa using marked, released⟩, stays, isOf.mode.symm.trans isShell, shell, ended⟩

theorem close_advances
    (tracks : host.Tracks status)
    (limit : Option Seconds)
    (executor : Executor)
    (state : State) :
    Advances (status state) (status (executor.close host limit state).2.2) := by
  unfold close
  cases executor.engine with
  | file => exact Advances.refl _
  | shell session =>
      have advances := Session.close_advances tracks limit session state
      rcases closing : session.close host limit state with ⟨answer, session', after⟩
      rw [closing] at advances
      simp only [closing]
      cases answer with
      | ok _ => exact advances
      | error failure => exact advances

theorem leads_close
    (tracks : host.Tracks status)
    (limit : Option Seconds)
    (executor : Executor)
    (state : State) :
    Leads status executor state (executor.close host limit state).2.1
      (executor.close host limit state).2.2 where
  advances := close_advances tracks limit executor state
  sound := fun _ => ⟨fun _ => close_process? limit executor state, by simp [close_process?]⟩
  closed := fun closed => (close_closed_iff limit executor state).mpr (.inl closed)
  isOf := fun _ isOf => close_isOf isOf limit state

/-- A close does not fail if the shell that the executor holds can be waited for. -/
theorem close_ok
    (tracks : host.Tracks status)
    {limit : Option Seconds}
    (canWait : limit.all Seconds.canBeAdded = true)
    (executor : Executor)
    (state : State) :
    (executor.close host limit state).1 = .ok () := by
  unfold close
  cases executor.engine with
  | file => rfl
  | shell session =>
      have answers := Session.close_ok tracks canWait session state
      rcases closing : session.close host limit state with ⟨answer, session', after⟩
      rw [closing] at answers
      cases answers
      simp only [closing]

/-- A further close of a sound executor that is marked as closed does nothing. -/
theorem close_of_closed
    {executor : Executor}
    {state : State}
    (sound : executor.Sound status state)
    (closed : executor.closed = true)
    (limit : Option Seconds) :
    executor.close host limit state = (.ok (), executor, state) := by
  have released := sound.released closed
  obtain ⟨runners, engine, duration, isMarked, config⟩ := executor
  cases closed
  cases engine with
  | file => rfl
  | shell session => simp only [close, Session.close_of_unused limit released]

/-- After a close an executor has ended exactly if the close did not fail. -/
theorem ended_close_iff
    {executor : Executor}
    {state : State}
    (sound : executor.Sound status state)
    (limit : Option Seconds) :
    (executor.close host limit state).2.1.Ended status (executor.close host limit state).2.2 ↔
      (executor.close host limit state).1 = .ok () := by
  constructor
  · rintro (closed | ⟨shell, held, _⟩)
    · rcases (close_closed_iff limit executor state).mp closed with before | answer
      · rw [close_of_closed sound before]
      · exact answer
    · rw [close_process?] at held
      cases held
  · intro answer
    exact .inl ((close_closed_iff limit executor state).mpr (.inr answer))

end Executor
end Snippets
