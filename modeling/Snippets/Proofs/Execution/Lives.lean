import Snippets.Proofs.Execution.Sharing

/-!
# The life of one executor

A history is any sequence of runs and closes of one executor, with shells that exit in
between.  Whether the executor is closed is not stored in one place: a close marks it, and a
shell that exits ends it without a mark.  The main statement is that both together say at every
moment what happened before, exactly if no close fails, and that what is closed stays closed
exactly if no close of it fails.  A run on a closed executor does nothing, whatever the block
is, and after a close that did not fail neither does another.
-/

namespace Snippets

open ShellStatus (Advances)

/-- A call on one executor, or what may happen between two calls. -/
inductive Call (State : Type) where
  /-- A block is run. -/
  | run (block : Block)
  /-- The executor is closed. -/
  | close (limit : Option Seconds)
  /-- Time passes, after which the host has the given state. -/
  | elapse (state : State)

/-- One executor and the host at one moment of a history. -/
structure Life (State : Type) where
  /-- The executor. -/
  executor : Executor
  /-- The state of the host. -/
  state : State
  /-- The shells that the executor held after its runs, the latest first. -/
  held : List Nat

namespace Life

variable {State : Type} {host : Host State} {status : State → Nat → ShellStatus}

/-- The moment before the first call. -/
def first (executor : Executor) (state : State) : Life State :=
  ⟨executor, state, []⟩

/-- The moment after one call. -/
def next (host : Host State) (life : Life State) : Call State → Life State
  | .run block =>
      let (_, executor, state) := life.executor.run host block life.state
      ⟨executor, state, executor.process?.toList ++ life.held⟩
  | .close limit =>
      let (_, executor, state) := life.executor.close host limit life.state
      ⟨executor, state, life.held⟩
  | .elapse state => { life with state := state }

/-- The moment after some calls on an executor. -/
def after
    (host : Host State)
    (executor : Executor)
    (start : State)
    (past : List (Call State)) : Life State :=
  past.foldl (next host) (first executor start)

/-- Whether the executor says that it is closed. -/
def Closed (host : Host State) (life : Life State) : Prop :=
  (life.executor.isClosed host life.state).1 = true

/-- Whether a call may happen: while time passes, shells exit and never come back, and the shell
that the executor holds does not exit during a run. -/
def MayHappen
    (host : Host State)
    (status : State → Nat → ShellStatus)
    (life : Life State) : Call State → Prop
  | .run block => ∀ shell, life.executor.process? = some shell →
      status life.state shell = .running →
      status (life.executor.run host block life.state).2.2 shell = .running
  | .close _ => True
  | .elapse later => Advances (status life.state) (status later)

/-- Whether all that happens in a history may happen when it does. -/
def IsPossible
    (host : Host State)
    (status : State → Nat → ShellStatus)
    (executor : Executor)
    (start : State)
    (history : List (Call State)) : Prop :=
  ∀ past call, past ++ [call] <+: history →
    (after host executor start past).MayHappen host status call

/-- Whether a close of the executor does not fail. -/
def Closes (host : Host State) (limit : Option Seconds) (life : Life State) : Prop :=
  (life.executor.close host limit life.state).1 = .ok ()

/-- Whether the executor is closed exactly if it was told to close before, or a shell that it
has held has exited. -/
def ClosedAsHappened
    (host : Host State)
    (status : State → Nat → ShellStatus)
    (past : List (Call State))
    (life : Life State) : Prop :=
  life.Closed host ↔
    (∃ limit, .close limit ∈ past) ∨ ∃ shell ∈ life.held, status life.state shell = .exited

/-- Whether a run of any block fails because the executor is closed, and has done nothing but
ask whether a shell is running. -/
def Refuses (host : Host State) (life : Life State) : Prop :=
  ∀ block, ∃ failure state,
    life.executor.run host block life.state = (.error failure, life.executor, state) ∧
    failure.message? = some "Executor is closed" ∧
    (state = life.state ∨ ∃ shell, state = (host.isRunning shell life.state).2)

/-- What holds as long as no close fails: a mark stands for a close, and the shells that the
executor has held are the one that it holds, unless it is marked. -/
structure Recorded
    (status : State → Nat → ShellStatus)
    (past : List (Call State))
    (life : Life State) : Prop where
  sound : life.executor.Sound status life.state
  marked : life.executor.closed = true ↔ ∃ limit, .close limit ∈ past
  holds : ∀ shell, life.executor.process? = some shell → shell ∈ life.held
  held : ∀ shell ∈ life.held, life.executor.closed = true ∨ life.executor.process? = some shell

@[simp] theorem after_nil (executor : Executor) (start : State) :
    after host executor start [] = first executor start :=
  rfl

@[simp] theorem after_concat
    (executor : Executor)
    (start : State)
    (past : List (Call State))
    (call : Call State) :
    after host executor start (past ++ [call]) = (after host executor start past).next host call := by
  simp [after]

theorem isPossible_nil (executor : Executor) (start : State) :
    IsPossible host status executor start [] :=
  fun past call happened => by simp at happened

theorem IsPossible.concat
    {executor : Executor}
    {start : State}
    {history : List (Call State)}
    {call : Call State}
    (possible : IsPossible host status executor start history)
    (next : (after host executor start history).MayHappen host status call) :
    IsPossible host status executor start (history ++ [call]) := by
  intro past other happened
  rcases concat_prefix_concat happened with ⟨rfl, rfl⟩ | earlier
  · exact next
  · exact possible past other earlier

/-! ## One call -/

theorem closed_iff_ended
    (tracks : host.Tracks status)
    {life : Life State}
    (sound : life.executor.Sound status life.state) :
    life.Closed host ↔ life.executor.Ended status life.state :=
  Executor.isClosed_iff_ended tracks sound

theorem sound_next
    (tracks : host.Tracks status)
    {life : Life State}
    {call : Call State}
    (sound : life.executor.Sound status life.state)
    (may : life.MayHappen host status call) :
    (life.next host call).executor.Sound status (life.next host call).state := by
  cases call with
  | run block => exact (Executor.leads_run tracks block life.executor life.state).sound sound
  | close limit => exact (Executor.leads_close tracks limit life.executor life.state).sound sound
  | elapse later => exact sound.advances may

/-- What is closed stays closed in any call but a close that fails. -/
theorem ended_next
    (tracks : host.Tracks status)
    {life : Life State}
    {call : Call State}
    (sound : life.executor.Sound status life.state)
    (may : life.MayHappen host status call)
    (closes : ∀ limit, call = .close limit → life.Closes host limit)
    (ended : life.executor.Ended status life.state) :
    (life.next host call).executor.Ended status (life.next host call).state := by
  cases call with
  | run block =>
      have refused := Executor.run_of_isClosed ((closed_iff_ended tracks sound).mpr ended) block
      have same := Executor.isClosed_status tracks life.executor life.state
      simp only [next, refused]
      exact ended.advances (.of_eq same)
  | close limit => exact (Executor.ended_close_iff sound limit).mpr (closes limit rfl)
  | elapse later => exact ended.advances may

theorem recorded_first
    {executor : Executor}
    (isNew : executor.IsNew)
    (start : State) :
    (first executor start).Recorded status [] where
  sound := isNew.sound start
  marked := by simp [first, isNew.isOpen]
  holds := by simp [first, isNew.holdsNone]
  held := by simp [first]

theorem recorded_run
    (tracks : host.Tracks status)
    {life : Life State}
    {past : List (Call State)}
    {block : Block}
    (recorded : life.Recorded status past)
    (may : life.MayHappen host status (.run block)) :
    (life.next host (.run block)).Recorded status (past ++ [.run block]) where
  sound := sound_next tracks recorded.sound may
  marked := by
    have sameMark := Executor.closed_run host block life.executor life.state
    simpa [next, sameMark] using recorded.marked
  holds := fun shell held => List.mem_append_left _ (Option.mem_toList.mpr held)
  held := fun shell held => by
    have sameMark := Executor.closed_run host block life.executor life.state
    rcases List.mem_append.mp held with latest | earlier
    · exact .inr (Option.mem_toList.mp latest)
    · rcases recorded.held shell earlier with marked | isHeld
      · exact .inl (sameMark.trans marked)
      · exact .inr (Executor.process?_run tracks recorded.sound isHeld (may shell isHeld))

theorem recorded_close
    (tracks : host.Tracks status)
    {life : Life State}
    {past : List (Call State)}
    {limit : Option Seconds}
    (recorded : life.Recorded status past)
    (closes : life.Closes host limit) :
    (life.next host (.close limit)).Recorded status (past ++ [.close limit]) where
  sound := sound_next tracks recorded.sound trivial
  marked :=
    ⟨fun _ => ⟨limit, by simp⟩,
      fun _ => (Executor.close_closed_iff limit life.executor life.state).mpr (.inr closes)⟩
  holds := fun shell held => by
    simp [next, Executor.close_process?] at held
  held := fun _ _ =>
    .inl ((Executor.close_closed_iff limit life.executor life.state).mpr (.inr closes))

theorem recorded_next
    (tracks : host.Tracks status)
    {life : Life State}
    {past : List (Call State)}
    {call : Call State}
    (recorded : life.Recorded status past)
    (may : life.MayHappen host status call)
    (closes : ∀ limit, call = .close limit → life.Closes host limit) :
    (life.next host call).Recorded status (past ++ [call]) := by
  cases call with
  | run block => exact recorded_run tracks recorded may
  | close limit => exact recorded_close tracks recorded (closes limit rfl)
  | elapse later =>
      exact ⟨sound_next tracks recorded.sound may, by simpa [next] using recorded.marked,
        recorded.holds, recorded.held⟩

theorem Recorded.closedAsHappened
    (tracks : host.Tracks status)
    {life : Life State}
    {past : List (Call State)}
    (recorded : life.Recorded status past) :
    life.ClosedAsHappened host status past := by
  rw [ClosedAsHappened, closed_iff_ended tracks recorded.sound, ← recorded.marked]
  constructor
  · rintro (marked | ⟨shell, held, hasExited⟩)
    · exact .inl marked
    · exact .inr ⟨shell, recorded.holds shell held, hasExited⟩
  · rintro (marked | ⟨shell, held, hasExited⟩)
    · exact .inl marked
    · rcases recorded.held shell held with marked | isHeld
      · exact .inl marked
      · exact .inr ⟨shell, isHeld, hasExited⟩

/-- A closed executor refuses all runs. -/
theorem Closed.refuses
    {life : Life State}
    (closed : life.Closed host) :
    life.Refuses host := by
  refine fun block => ⟨_, _, Executor.run_of_isClosed closed block, rfl, ?_⟩
  exact Executor.isClosed_state host life.executor life.state

/-! ## Histories -/

theorem sound_after
    (tracks : host.Tracks status)
    {executor : Executor}
    (isNew : executor.IsNew)
    {start : State}
    {history past : List (Call State)}
    (possible : IsPossible host status executor start history)
    (happened : past <+: history) :
    (after host executor start past).executor.Sound status (after host executor start past).state := by
  refine of_prefix
    (motive := fun past =>
      (after host executor start past).executor.Sound status (after host executor start past).state)
    (isNew.sound start) (fun past call happened earlier => ?_) happened
  rw [after_concat]
  exact sound_next tracks earlier (possible past call happened)

theorem recorded_after
    (tracks : host.Tracks status)
    {executor : Executor}
    (isNew : executor.IsNew)
    {start : State}
    {history past : List (Call State)}
    (possible : IsPossible host status executor start history)
    (closes : ∀ past limit, past ++ [.close limit] <+: history →
      (after host executor start past).Closes host limit)
    (happened : past <+: history) :
    (after host executor start past).Recorded status past := by
  refine of_prefix
    (motive := fun past => (after host executor start past).Recorded status past)
    (recorded_first isNew start) (fun past call happened earlier => ?_) happened
  rw [after_concat]
  refine recorded_next tracks earlier (possible past call happened) ?_
  rintro limit rfl
  exact closes past limit happened

/-- An executor that is closed at some moment is closed at all later ones, if no close of it
fails while it is closed. -/
theorem closed_later
    (tracks : host.Tracks status)
    {executor : Executor}
    (isNew : executor.IsNew)
    {start : State}
    {history past later : List (Call State)}
    (possible : IsPossible host status executor start history)
    (closes : ∀ past limit, past ++ [.close limit] <+: history →
      (after host executor start past).Closed host →
      (after host executor start past).Closes host limit)
    (happened : past ++ later <+: history)
    (closed : (after host executor start past).Closed host) :
    (after host executor start (past ++ later)).Closed host := by
  induction later using List.reverseRecOn with
  | nil => simpa using closed
  | append_singleton later call inductionHypothesis =>
      rw [← List.append_assoc] at happened ⊢
      have before := (List.prefix_append (past ++ later) [call]).trans happened
      have sound := sound_after tracks isNew possible before
      have stillClosed := inductionHypothesis before
      rw [after_concat]
      refine (closed_iff_ended tracks ?_).mpr (ended_next tracks sound
        (possible (past ++ later) call happened) ?_ ((closed_iff_ended tracks sound).mp stillClosed))
      · exact sound_next tracks sound (possible (past ++ later) call happened)
      · rintro limit rfl
        exact closes (past ++ later) limit happened stillClosed

/-- After a close an executor is closed exactly if the close did not fail. -/
theorem closed_close_iff
    (tracks : host.Tracks status)
    {executor : Executor}
    (isNew : executor.IsNew)
    {start : State}
    {history past : List (Call State)}
    {limit : Option Seconds}
    (possible : IsPossible host status executor start history)
    (happened : past ++ [.close limit] <+: history) :
    (after host executor start (past ++ [.close limit])).Closed host ↔
      (after host executor start past).Closes host limit := by
  have before := (List.prefix_append past [.close limit]).trans happened
  have sound := sound_after tracks isNew possible before
  rw [closed_iff_ended tracks (sound_after tracks isNew possible happened), after_concat]
  exact Executor.ended_close_iff sound limit

/-- A mark stays. -/
theorem marked_later
    (tracks : host.Tracks status)
    {executor : Executor}
    {start : State}
    (past later : List (Call State))
    (marked : (after host executor start past).executor.closed = true) :
    (after host executor start (past ++ later)).executor.closed = true := by
  induction later using List.reverseRecOn with
  | nil => simpa using marked
  | append_singleton later call inductionHypothesis =>
      rw [← List.append_assoc, after_concat]
      cases call with
      | run block => exact (Executor.leads_run tracks block _ _).closed inductionHypothesis
      | close limit => exact (Executor.leads_close tracks limit _ _).closed inductionHypothesis
      | elapse later => exact inductionHypothesis

/-- An executor that was just made is closed at every moment of every history exactly if it was
told to close before or a shell that it has held has exited, provided that no close fails, and
only then.  What is closed stays closed exactly if no close fails that finds it closed.  No close
fails if all times can be waited for.  A closed executor refuses every block, with nothing done,
and after a close that did not fail any other leaves all as it is. -/
theorem closed_throughout
    (tracks : host.Tracks status)
    {executor : Executor}
    (isNew : executor.IsNew)
    (start : State)
    (history : List (Call State))
    (possible : IsPossible host status executor start history) :
    ((∀ past, past <+: history →
        (after host executor start past).ClosedAsHappened host status past) ↔
      ∀ past limit, past ++ [.close limit] <+: history →
        (after host executor start past).Closes host limit) ∧
    ((∀ past later, past ++ later <+: history → (after host executor start past).Closed host →
        (after host executor start (past ++ later)).Closed host) ↔
      ∀ past limit, past ++ [.close limit] <+: history →
        (after host executor start past).Closed host →
        (after host executor start past).Closes host limit) ∧
    ((∀ limit, .close limit ∈ history → limit.all Seconds.canBeAdded = true) →
      ∀ past limit, past ++ [.close limit] <+: history →
        (after host executor start past).Closes host limit) ∧
    (∀ past, past <+: history → (after host executor start past).Closed host →
      (after host executor start past).Refuses host) ∧
    (∀ past limit later, past ++ [.close limit] ++ later <+: history →
      (after host executor start past).Closes host limit →
      ∀ again,
        let life := after host executor start (past ++ [.close limit] ++ later)
        life.executor.close host again life.state = (.ok (), life.executor, life.state)) := by
  refine ⟨⟨?_, ?_⟩, ⟨?_, ?_⟩, ?_, ?_, ?_⟩
  · intro asHappened past limit happened
    have told : ∃ limit', .close limit' ∈ past ++ [Call.close limit] := ⟨limit, by simp⟩
    exact (closed_close_iff tracks isNew possible happened).mp
      ((asHappened _ happened).mpr (.inl told))
  · intro closes past happened
    exact (recorded_after tracks isNew possible closes happened).closedAsHappened tracks
  · intro stays past limit happened closed
    exact (closed_close_iff tracks isNew possible happened).mp (stays past _ happened closed)
  · intro closes past later happened closed
    exact closed_later tracks isNew possible closes happened closed
  · intro canWait past limit happened
    have present : .close limit ∈ history := happened.subset (by simp)
    exact Executor.close_ok tracks (canWait limit present) _ _
  · intro past happened closed
    exact closed.refuses
  · intro past limit later happened closes again
    have marked : (after host executor start (past ++ [.close limit])).executor.closed = true := by
      rw [after_concat]
      exact (Executor.close_closed_iff limit _ _).mpr (.inr closes)
    exact Executor.close_of_closed (sound_after tracks isNew possible happened)
      (marked_later tracks _ later marked) again

/-! ## An executor that opens again -/

open Moment (shellConfig exitBlock exitedMachine longLimit)

/-- The shell of an executor exits. -/
def exiting : List (Call Machine) :=
  [.run exitBlock, .elapse exitedMachine]

/-- The moment of a machine with a shell only after some calls on an executor of that shell. -/
def afterwards (past : List (Call Machine)) : Life Machine :=
  after Machine.host (Executor.ofConfig shellConfig) (.withWorkers []) past

theorem afterwards_run :
    afterwards [.run exitBlock] =
      ⟨Moment.heldExecutor,
        .withWorkers [Machine.shellWorker (Executor.compound exitBlock.code) false], [0]⟩ := by
  simp only [afterwards, after, first, List.foldl, next, Moment.run_exitBlock]
  rfl

theorem afterwards_exiting :
    afterwards exiting = ⟨Moment.heldExecutor, exitedMachine, [0]⟩ := by
  rw [show exiting = [.run exitBlock] ++ [.elapse exitedMachine] from rfl, afterwards,
    after_concat, ← afterwards, afterwards_run]
  rfl

theorem isPossible_exiting :
    IsPossible Machine.host Machine.shellStatus (Executor.ofConfig shellConfig) (.withWorkers [])
      (exiting ++ [.close (some longLimit)]) := by
  have runs : IsPossible Machine.host Machine.shellStatus (Executor.ofConfig shellConfig)
      (.withWorkers []) ([] ++ [.run exitBlock]) :=
    (isPossible_nil _ _).concat fun shell held => by simp [first] at held
  have waits : IsPossible Machine.host Machine.shellStatus (Executor.ofConfig shellConfig)
      (.withWorkers []) ([.run exitBlock] ++ [.elapse exitedMachine]) := by
    refine runs.concat ?_
    change Advances (afterwards [.run exitBlock]).state.shellStatus exitedMachine.shellStatus
    rw [afterwards_run]
    exact Moment.advances_exitedMachine _
  exact waits.concat trivial

/-- The executor is closed, as its shell has exited, until a close of it fails. -/
theorem not_closed_exiting :
    IsPossible Machine.host Machine.shellStatus (Executor.ofConfig shellConfig) (.withWorkers [])
      (exiting ++ [.close (some longLimit)]) ∧
    (afterwards exiting).Closed Machine.host ∧
    ¬(afterwards (exiting ++ [.close (some longLimit)])).Closed Machine.host ∧
    ¬(afterwards (exiting ++ [.close (some longLimit)])).ClosedAsHappened Machine.host
      Machine.shellStatus (exiting ++ [.close (some longLimit)]) := by
  have isOpen : ¬(afterwards (exiting ++ [.close (some longLimit)])).Closed Machine.host := by
    rw [afterwards, after_concat, ← afterwards, afterwards_exiting, Closed]
    simp only [next, Moment.close_heldExecutor]
    simp [Executor.isClosed_ofConfig Machine.tracks]
  refine ⟨isPossible_exiting, by rw [afterwards_exiting]; rfl, isOpen, fun asHappened => ?_⟩
  exact isOpen (asHappened.mpr (.inl ⟨some longLimit, by simp⟩))

/-- The statement on the life of an executor, for that history. -/
theorem closed_exiting :
    Machine.host.Tracks Machine.shellStatus ∧
    (Executor.ofConfig shellConfig).IsNew ∧
    IsPossible Machine.host Machine.shellStatus (Executor.ofConfig shellConfig) (.withWorkers [])
      (exiting ++ [.close (some longLimit)]) ∧
    (afterwards exiting).Refuses Machine.host :=
  ⟨Machine.tracks, Executor.isNew_ofConfig _, isPossible_exiting,
    (closed_throughout Machine.tracks (Executor.isNew_ofConfig _) (.withWorkers []) _
      isPossible_exiting).2.2.2.1 exiting (List.prefix_append _ _)
      (by rw [← afterwards, afterwards_exiting]; rfl)⟩

end Life
end Snippets
