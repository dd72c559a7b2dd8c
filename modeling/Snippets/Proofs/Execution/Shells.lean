import Snippets.Execution.Session

/-!
# What becomes of shells

A shell is first unused, then running and at last exited, and it never goes back.  A host
tracks its shells if its steps only move them forward and if its answers about them are
true.  A session on such a host only ever holds a shell that was started.
-/

namespace Snippets

/-- How far a shell has come. -/
inductive ShellStatus where
  /-- No shell has been started under the number. -/
  | unused
  /-- The shell has been started and has not exited. -/
  | running
  /-- The shell has exited. -/
  | exited
  deriving DecidableEq

namespace ShellStatus

/-- The place of a status in the life of a shell. -/
def rank : ShellStatus → Nat
  | unused => 0
  | running => 1
  | exited => 2

@[simp] theorem rank_unused : rank unused = 0 := rfl

@[simp] theorem rank_running : rank running = 1 := rfl

@[simp] theorem rank_exited : rank exited = 2 := rfl

/-- Whether no shell has gone back between two moments. -/
def Advances (before after : Nat → ShellStatus) : Prop :=
  ∀ shell, (before shell).rank ≤ (after shell).rank

@[simp] theorem Advances.refl (status : Nat → ShellStatus) : Advances status status :=
  fun _ => Nat.le_refl _

theorem Advances.of_eq
    {before after : Nat → ShellStatus}
    (same : after = before) :
    Advances before after :=
  same ▸ Advances.refl before

theorem Advances.trans
    {first second third : Nat → ShellStatus}
    (earlier : Advances first second)
    (later : Advances second third) :
    Advances first third :=
  fun shell => Nat.le_trans (earlier shell) (later shell)

/-- A shell that was started stays started. -/
theorem Advances.started
    {before after : Nat → ShellStatus}
    {shell : Nat}
    (advances : Advances before after)
    (started : before shell ≠ unused) :
    after shell ≠ unused := by
  intro unusedAfter
  have notLess := advances shell
  rw [unusedAfter] at notLess
  cases known : before shell with
  | unused => exact started known
  | running => simp [known] at notLess
  | exited => simp [known] at notLess

/-- A shell that was started and is running has been running since. -/
theorem Advances.running
    {before after : Nat → ShellStatus}
    {shell : Nat}
    (advances : Advances before after)
    (started : before shell ≠ unused)
    (isRunning : after shell = .running) :
    before shell = .running := by
  have notLess := advances shell
  rw [isRunning] at notLess
  cases known : before shell with
  | unused => exact absurd known started
  | running => rfl
  | exited => simp [known] at notLess

/-- A shell that has exited never runs again. -/
theorem Advances.exited
    {before after : Nat → ShellStatus}
    {shell : Nat}
    (advances : Advances before after)
    (hasExited : before shell = .exited) :
    after shell = .exited := by
  have notLess := advances shell
  rw [hasExited] at notLess
  cases known : after shell with
  | unused => simp [known] at notLess
  | running => simp [known] at notLess
  | exited => rfl

end ShellStatus

open ShellStatus (Advances)

/-- A host tracks its shells: no step takes a shell back, asking for a shell answers the
truth and changes nothing, a shell that is handed out was started, and the end of a shell
can be waited for unless the time is greater than what can be reckoned with.  Nobody interrupts
the wait. -/
structure Host.Tracks
    {State : Type}
    (host : Host State)
    (status : State → Nat → ShellStatus) : Prop where
  createFile (ext content : String) (state : State) :
    Advances (status state) (status (host.createFile ext content state).2)
  removeFile (path : String) (state : State) :
    Advances (status state) (status (host.removeFile path state))
  runCommand (command : String) (limit : Option Seconds) (state : State) :
    Advances (status state) (status (host.runCommand command limit state).2)
  startShell (name : String) (state : State) :
    Advances (status state) (status (host.startShell name state).2)
  started (name : String) (state : State) (shell : Nat) :
    (host.startShell name state).1 = .ok shell →
      status (host.startShell name state).2 shell ≠ .unused
  answer (shell : Nat) (state : State) :
    (host.isRunning shell state).1 = decide (status state shell = .running)
  asking (shell : Nat) (state : State) :
    status (host.isRunning shell state).2 = status state
  writeShell (shell : Nat) (text : String) (state : State) :
    Advances (status state) (status (host.writeShell shell text state).2)
  endShell (shell : Nat) (limit : Option Seconds) (state : State) :
    Advances (status state) (status (host.endShell shell limit state).2)
  ended (shell : Nat) (limit : Option Seconds) (state : State) :
    limit.all Seconds.canBeAdded = true → (host.endShell shell limit state).1 = .ok ()

namespace Session

variable {State : Type} {host : Host State} {status : State → Nat → ShellStatus}

/-- The shell that a session holds, if it holds one, was started. -/
def Started (status : State → Nat → ShellStatus) (session : Session) (state : State) : Prop :=
  ∀ shell, session.process = some shell → status state shell ≠ .unused

theorem Started.advances
    {session : Session}
    {before after : State}
    (started : session.Started status before)
    (advances : Advances (status before) (status after)) :
    session.Started status after :=
  fun shell held => advances.started (started shell held)

/-- What a step may make of a session and of the state: no shell goes back, the shell that is
held was started if it was before, and a shell that is still running is still held. -/
structure Leads
    (status : State → Nat → ShellStatus)
    (session : Session)
    (state : State)
    (session' : Session)
    (state' : State) : Prop where
  advances : Advances (status state) (status state')
  started : session.Started status state → session'.Started status state'
  kept : session.Started status state → ∀ shell, session.process = some shell →
    status state' shell = .running → session'.process = some shell

theorem Leads.of_advances
    {session : Session}
    {state state' : State}
    (advances : Advances (status state) (status state')) :
    Leads status session state session state' :=
  ⟨advances, fun started => started.advances advances, fun _ _ held _ => held⟩

theorem Leads.trans
    {first second third : Session}
    {state state' state'' : State}
    (earlier : Leads status first state second state')
    (later : Leads status second state' third state'') :
    Leads status first state third state'' where
  advances := earlier.advances.trans later.advances
  started := fun started => later.started (earlier.started started)
  kept := fun started shell held isRunning => by
    have startedBetween := earlier.advances.started (started shell held)
    have between := later.advances.running startedBetween isRunning
    exact later.kept (earlier.started started) shell (earlier.kept started shell held between)
      isRunning

/-- A session has ended if it holds a shell that is not running. -/
theorem hasEnded_answer
    (tracks : host.Tracks status)
    (session : Session)
    (state : State) :
    (session.hasEnded host state).1 =
      session.process.any fun shell => decide (status state shell ≠ .running) := by
  cases held : session.process with
  | none => simp [hasEnded, held]
  | some shell => simp [hasEnded, held, tracks.answer]

theorem hasEnded_status
    (tracks : host.Tracks status)
    (session : Session)
    (state : State) :
    status (session.hasEnded host state).2 = status state := by
  cases held : session.process with
  | none => simp [hasEnded, held]
  | some shell => simp [hasEnded, held, tracks.asking]

/-- Starts a shell for a session. -/
def launch (host : Host State) (session : Session) (state : State) :
    Except SendFailure Nat × Session × State :=
  match host.startShell session.shell state with
  | (.ok shell, state) => (.ok shell, { session with process := some shell }, state)
  | (.error .missing, state) => (.error (.shellMissing session.shell), session, state)
  | (.error (.other failure), state) => (.error (.other failure), session, state)

/-- A session keeps a shell that is running, and otherwise starts one. -/
theorem ensure_eq_launch (session : Session) (state : State) :
    session.ensure host state =
      match session.process with
      | none => session.launch host state
      | some shell =>
          match host.isRunning shell state with
          | (true, state) => (.ok shell, session, state)
          | (false, state) => session.launch host state :=
  rfl

/-- A session that holds no running shell gives none away when it starts another. -/
theorem leads_launch
    (tracks : host.Tracks status)
    (session : Session)
    (state : State)
    (gone : ∀ shell, session.process = some shell → status state shell ≠ .running) :
    Leads status session state (session.launch host state).2.1
      (session.launch host state).2.2 := by
  have advances := tracks.startShell session.shell state
  have started := tracks.started session.shell state
  unfold launch
  rcases launched : host.startShell session.shell state with ⟨answer, after⟩
  rw [launched] at advances started
  match answer with
  | .ok shell =>
      refine ⟨advances, fun _ held same => ?_, fun wasStarted held isHeld isRunning => ?_⟩
      · rw [← Option.some.inj same]
        exact started shell rfl
      · exact absurd (advances.running (wasStarted held isHeld) isRunning) (gone held isHeld)
  | .error .missing => exact .of_advances advances
  | .error (.other failure) => exact .of_advances advances

/-- The shell that a session holds after it needed one was started. -/
theorem leads_ensure
    (tracks : host.Tracks status)
    (session : Session)
    (state : State) :
    Leads status session state (session.ensure host state).2.1
      (session.ensure host state).2.2 := by
  rw [ensure_eq_launch]
  cases held : session.process with
  | none => exact leads_launch tracks session state (by simp [held])
  | some shell =>
      have same := tracks.asking shell state
      have truth := tracks.answer shell state
      rcases asked : host.isRunning shell state with ⟨running, after⟩
      rw [asked] at same truth
      simp only [asked]
      have waiting : Leads status session state session after := .of_advances (.of_eq same)
      cases running with
      | true => exact waiting
      | false =>
          refine waiting.trans (leads_launch tracks session after fun other isHeld => ?_)
          rw [held, Option.some.injEq] at isHeld
          rw [← isHeld, same]
          exact of_decide_eq_false truth.symm

theorem leads_send
    (tracks : host.Tracks status)
    (text : String)
    (session : Session)
    (state : State) :
    Leads status session state (session.send host text state).2.1
      (session.send host text state).2.2 := by
  have leads := leads_ensure tracks session state
  unfold send
  rcases ensured : session.ensure host state with ⟨answer, session', after⟩
  rw [ensured] at leads
  match answer with
  | .error failure => exact leads
  | .ok shell =>
      have advances := tracks.writeShell shell text after
      rcases written : host.writeShell shell text after with ⟨outcome, last⟩
      rw [written] at advances
      simp only [written]
      cases outcome with
      | ok _ => exact leads.trans (.of_advances advances)
      | error reason => exact leads.trans (.of_advances advances)

/-- A session that was told to close holds no shell, also if nobody could wait for it. -/
theorem close_process
    (limit : Option Seconds)
    (session : Session)
    (state : State) :
    (session.close host limit state).2.1.process = none := by
  cases held : session.process with
  | none => simp [close, held]
  | some shell => simp [close, held]

theorem close_advances
    (tracks : host.Tracks status)
    (limit : Option Seconds)
    (session : Session)
    (state : State) :
    Advances (status state) (status (session.close host limit state).2.2) := by
  cases held : session.process with
  | none => simp [close, held]
  | some shell => simpa [close, held] using tracks.endShell shell limit state

/-- A session that holds no shell can always be closed. -/
theorem close_of_unused
    {session : Session}
    (limit : Option Seconds)
    (unused : session.process = none)
    (state : State) :
    session.close host limit state = (.ok (), session, state) := by
  simp [close, unused]

/-- A session can be closed if its shell can be waited for. -/
theorem close_ok
    (tracks : host.Tracks status)
    {limit : Option Seconds}
    (canWait : limit.all Seconds.canBeAdded = true)
    (session : Session)
    (state : State) :
    (session.close host limit state).1 = .ok () := by
  cases held : session.process with
  | none => simp [close, held]
  | some shell => simpa [close, held] using tracks.ended shell limit state canWait

end Session
end Snippets
