import Snippets.Proofs.Execution.MachineShells
import Snippets.Proofs.Execution.Pools
import Snippets.Proofs.Lists

/-!
# Sharing over time

A history is any sequence of calls on the executors of a process, with shells that exit in
between.  The main statement is about every moment of every history.  Whoever allows sharing
gets an open executor of the right configuration, and it is that of the latest such call
exactly if that one is open and was made from an equal configuration; whoever does not gets
an executor beside all others.  An executor that was shared and is so no longer stays closed
as long as no further close of it fails, and a close can fail only by a time that is too
great to be waited for.
-/

namespace Snippets

open ShellStatus (Advances)

/-- A call on the executors of a process, or what may happen between two calls. -/
inductive Action (State : Type) where
  /-- Somebody asks for an executor. -/
  | acquire (config : Config)
  /-- The shared executor is closed and forgotten. -/
  | closeShared (limit : Option Seconds)
  /-- A block is run. -/
  | run (number : Nat) (block : Block)
  /-- An executor is closed. -/
  | close (number : Nat) (limit : Option Seconds)
  /-- Time passes, after which the host has the given state. -/
  | elapse (state : State)

/-- Whether something may happen in a state of the host.  While time passes, shells exit and
never come back. -/
def Action.IsPossible
    {State : Type}
    (status : State → Nat → ShellStatus)
    (state : State) : Action State → Prop
  | .elapse after => Advances (status state) (status after)
  | _ => True

/-- The executors and the host at one moment of a history. -/
structure Moment (State : Type) where
  /-- The executors. -/
  pool : Pool
  /-- The state of the host. -/
  state : State
  /-- The numbers that calls which allow sharing were answered, the latest first. -/
  handed : List Nat

namespace Moment

variable {State : Type} {host : Host State} {status : State → Nat → ShellStatus}

/-- The moment before the first call. -/
def first (state : State) : Moment State :=
  ⟨Pool.empty, state, []⟩

/-- The moment after one call. -/
def next (host : Host State) (moment : Moment State) : Action State → Moment State
  | .acquire config =>
      let (answer, pool, state) := moment.pool.acquire host config moment.state
      let latest := if config.reuseExecutor then answer.toOption.toList else []
      ⟨pool, state, latest ++ moment.handed⟩
  | .closeShared limit =>
      let (_, pool, state) := moment.pool.closeShared host limit moment.state
      ⟨pool, state, moment.handed⟩
  | .run number block =>
      let (_, pool, state) := moment.pool.run host number block moment.state
      ⟨pool, state, moment.handed⟩
  | .close number limit =>
      let (_, pool, state) := moment.pool.close host number limit moment.state
      ⟨pool, state, moment.handed⟩
  | .elapse state => { moment with state := state }

/-- The moment after some calls, where the host was in a given state before the first. -/
def after (host : Host State) (start : State) (past : List (Action State)) : Moment State :=
  past.foldl (next host) (first start)

/-- Whether an executor was handed out to be shared and is not shared any more. -/
def Abandoned (number : Nat) (moment : Moment State) : Prop :=
  number ∈ moment.handed ∧ moment.pool.shared ≠ some number

/-- Whether all executors that are not shared any more are closed. -/
def AbandonsClosed (host : Host State) (moment : Moment State) : Prop :=
  ∀ number, moment.Abandoned number → (moment.pool.isClosed host number moment.state).1 = true

/-- Whether a call that allows sharing gets an open executor with all that its configuration
asks for, which is that of the latest such call exactly if that one is open and was made from
an equal configuration. -/
def Shares (host : Host State) (moment : Moment State) (config : Config) : Prop :=
  ∃ number executor pool state,
    moment.pool.acquire host config moment.state = (.ok number, pool, state) ∧
    pool.executor? number = some executor ∧
    (executor.isClosed host state).1 = false ∧
    executor.IsOf config ∧
    ∀ previous, moment.handed.head? = some previous →
      (number = previous ↔
        (moment.pool.executor? previous).bind Executor.config = some config ∧
          (moment.pool.isClosed host previous moment.state).1 = false)

/-- Whether a call that does not allow sharing gets a new open executor, after which the
shared executor and all executors that were there are the same. -/
def Separates (host : Host State) (moment : Moment State) (config : Config) : Prop :=
  ∃ pool,
    moment.pool.acquire host config moment.state =
      (.ok moment.pool.executors.length, pool, moment.state) ∧
    pool.executors = moment.pool.executors ++ [Executor.ofConfig config] ∧
    pool.shared = moment.pool.shared ∧
    (pool.isClosed host moment.pool.executors.length moment.state).1 = false

/-- Whether all that happens in a history may happen when it does. -/
def IsPossible
    (host : Host State)
    (status : State → Nat → ShellStatus)
    (start : State)
    (history : List (Action State)) : Prop :=
  ∀ past action, past ++ [action] <+: history →
    action.IsPossible status (after host start past).state

/-- What holds at every moment: the executors are sound, the shared one is the latest that
was handed out, and without a shared one the latest is marked as closed. -/
structure Consistent (status : State → Nat → ShellStatus) (moment : Moment State) : Prop where
  sound : moment.pool.Sound status moment.state
  made : ∀ number ∈ moment.handed, number < moment.pool.executors.length
  latest : ∀ shared, moment.pool.shared = some shared → moment.handed.head? = some shared
  forgotten : moment.pool.shared = none →
    ∀ number, moment.handed.head? = some number → moment.pool.Marked number

/-- Whether all executors that are not shared any more have ended. -/
def AbandonsEnded (status : State → Nat → ShellStatus) (moment : Moment State) : Prop :=
  ∀ number, moment.Abandoned number → moment.pool.Ended status number moment.state

@[simp] theorem after_nil (start : State) : after host start [] = first start := rfl

@[simp] theorem after_concat
    (start : State)
    (past : List (Action State))
    (action : Action State) :
    after host start (past ++ [action]) = (after host start past).next host action := by
  simp [after]

theorem isPossible_nil (start : State) : IsPossible host status start [] :=
  fun past action happened => by simp at happened

theorem IsPossible.concat
    {start : State}
    {history : List (Action State)}
    {action : Action State}
    (possible : IsPossible host status start history)
    (next : action.IsPossible status (after host start history).state) :
    IsPossible host status start (history ++ [action]) := by
  intro past other happened
  rcases concat_prefix_concat happened with ⟨rfl, rfl⟩ | earlier
  · exact next
  · exact possible past other earlier

theorem consistent_first (state : State) : (first state).Consistent status where
  sound := by simp [first, Pool.Sound, Pool.empty, Pool.executor?]
  made := by simp [first]
  latest := by simp [first, Pool.empty]
  forgotten := by simp [first]

namespace Consistent

variable {moment : Moment State}

theorem shared_lt
    (consistent : moment.Consistent status)
    {shared : Nat}
    (isShared : moment.pool.shared = some shared) :
    shared < moment.pool.executors.length :=
  consistent.made shared (List.mem_of_head? (consistent.latest shared isShared))

/-- A step that changes neither who is shared nor who was handed out keeps all in order. -/
theorem of_leads
    {touched : Nat → Prop}
    {pool : Pool}
    {state : State}
    (consistent : moment.Consistent status)
    (leads : Pool.Leads status touched moment.pool moment.state pool state)
    (sameShared : pool.shared = moment.pool.shared) :
    Consistent status ⟨pool, state, moment.handed⟩ where
  sound := leads.sound consistent.sound
  made := fun number handed => Nat.lt_of_lt_of_le (consistent.made number handed) leads.size
  latest := fun shared isShared => consistent.latest shared (sameShared ▸ isShared)
  forgotten := fun noneShared number handed =>
    leads.marked number (consistent.forgotten (sameShared ▸ noneShared) number handed)

/-- All stays in order when the executor that is shared from now on is handed out. -/
theorem of_leads_cons
    {touched : Nat → Prop}
    {pool : Pool}
    {state : State}
    {number : Nat}
    (consistent : moment.Consistent status)
    (leads : Pool.Leads status touched moment.pool moment.state pool state)
    (isShared : pool.shared = some number)
    (present : number < pool.executors.length) :
    Consistent status ⟨pool, state, number :: moment.handed⟩ where
  sound := leads.sound consistent.sound
  made := by
    intro other handed
    rcases List.mem_cons.mp handed with same | earlier
    · exact same ▸ present
    · exact Nat.lt_of_lt_of_le (consistent.made other earlier) leads.size
  latest := fun shared isSharedToo => by rw [← isSharedToo, isShared]; rfl
  forgotten := fun noneShared => by simp [isShared] at noneShared

/-- All stays in order when nothing is shared any more and the latest that was handed out is
closed. -/
theorem of_leads_none
    {touched : Nat → Prop}
    {pool : Pool}
    {state : State}
    (consistent : moment.Consistent status)
    (leads : Pool.Leads status touched moment.pool moment.state pool state)
    (marked : ∀ number, moment.handed.head? = some number → pool.Marked number) :
    Consistent status ⟨{ pool with shared := none }, state, moment.handed⟩ where
  sound := leads.sound consistent.sound
  made := fun number handed => Nat.lt_of_lt_of_le (consistent.made number handed) leads.size
  latest := fun _ isShared => by simp at isShared
  forgotten := fun _ => marked

end Consistent

/-! ## One call -/

/-- The outcome of a call that allows sharing, by whether the shared executor fits. -/
theorem acquire_cases
    (tracks : host.Tracks status)
    {moment : Moment State}
    (consistent : moment.Consistent status)
    {config : Config}
    (shares : config.reuseExecutor = true) :
    (∃ shared,
      moment.pool.shared = some shared ∧
      (moment.pool.executor? shared).bind Executor.config = some config ∧
      (moment.pool.isClosed host shared moment.state).1 = false ∧
      moment.pool.acquire host config moment.state =
        (.ok shared, moment.pool, (moment.pool.isClosed host shared moment.state).2)) ∨
    (∀ shared, moment.pool.shared = some shared →
      ¬((moment.pool.executor? shared).bind Executor.config = some config ∧
        (moment.pool.isClosed host shared moment.state).1 = false)) ∧
    ∃ pool state,
      moment.pool.acquire host config moment.state =
        (.ok moment.pool.executors.length, pool, state) ∧
      pool.shared = some moment.pool.executors.length ∧
      pool.executor? moment.pool.executors.length = some (Executor.ofConfig config) ∧
      Pool.Leads status (fun number => moment.pool.shared = some number)
        moment.pool moment.state pool state ∧
      ∀ shared, moment.pool.shared = some shared → pool.Ended status shared state := by
  by_cases fits : ∃ shared,
      moment.pool.shared = some shared ∧
      (moment.pool.executor? shared).bind Executor.config = some config ∧
      (moment.pool.isClosed host shared moment.state).1 = false
  · obtain ⟨shared, isShared, sameConfig, isOpen⟩ := fits
    exact .inl ⟨shared, isShared, sameConfig, isOpen,
      Pool.acquire_kept shares isShared sameConfig isOpen⟩
  · have unfit : ∀ shared, moment.pool.shared = some shared →
        ¬((moment.pool.executor? shared).bind Executor.config = some config ∧
          (moment.pool.isClosed host shared moment.state).1 = false) :=
      fun shared isShared both => fits ⟨shared, isShared, both⟩
    have present : ∀ shared, moment.pool.shared = some shared →
        shared < moment.pool.executors.length := fun _ isShared => consistent.shared_lt isShared
    exact .inr ⟨unfit, Pool.acquire_new tracks consistent.sound present shares unfit⟩

/-- The moment after a call that asks for an executor, by whether the one that it gets is handed out
to be shared.  The one that was shared before stays so unless it has ended. -/
theorem next_acquire_cases
    (tracks : host.Tracks status)
    {moment : Moment State}
    (consistent : moment.Consistent status)
    (config : Config) :
    (∃ pool,
      Pool.Leads status (fun _ => False) moment.pool moment.state pool moment.state ∧
      pool.shared = moment.pool.shared ∧
      moment.next host (.acquire config) = ⟨pool, moment.state, moment.handed⟩) ∨
    ∃ touched number pool state,
      Pool.Leads status touched moment.pool moment.state pool state ∧
      pool.shared = some number ∧
      number < pool.executors.length ∧
      (∀ other, touched other → pool.Ended status other state) ∧
      (∀ other, moment.pool.shared = some other → touched other ∨ other = number) ∧
      moment.next host (.acquire config) = ⟨pool, state, number :: moment.handed⟩ := by
  cases shares : config.reuseExecutor with
  | false =>
      refine .inl ⟨(moment.pool.add (Executor.ofConfig config)).2, .of_add config, rfl, ?_⟩
      simp only [next, shares, Pool.acquire_apart shares]
      rfl
  | true =>
      rcases acquire_cases tracks consistent shares with
        ⟨shared, isShared, -, -, acquired⟩ |
        ⟨-, pool, state, acquired, isShared, found, leads, replaced⟩
      · have waits := Advances.of_eq (Pool.isClosed_status tracks shared moment.pool moment.state)
        refine .inr ⟨fun _ => False, shared, moment.pool,
          (moment.pool.isClosed host shared moment.state).2, .of_advances waits, isShared,
          consistent.shared_lt isShared, fun _ => False.elim, fun other wasShared => .inr ?_, ?_⟩
        · exact Option.some.inj (wasShared.symm.trans isShared)
        · simp only [next, shares, acquired]
          rfl
      · have present := (Pool.executor?_isSome_iff _ pool).mp ⟨_, found⟩
        refine .inr ⟨fun number => moment.pool.shared = some number, _, pool, state, leads,
          isShared, present, replaced, fun _ => .inl, ?_⟩
        simp only [next, shares, acquired]
        rfl

theorem consistent_acquire
    (tracks : host.Tracks status)
    {moment : Moment State}
    (consistent : moment.Consistent status)
    (config : Config) :
    (moment.next host (.acquire config)).Consistent status := by
  rcases next_acquire_cases tracks consistent config with
    ⟨pool, leads, sameShared, same⟩ |
    ⟨touched, number, pool, state, leads, isShared, present, -, -, same⟩
  · rw [same]
    exact consistent.of_leads leads sameShared
  · rw [same]
    exact consistent.of_leads_cons leads isShared present

/-- The moment after the shared executor is closed, by whether there is one and whether its
close fails. -/
theorem next_closeShared_cases
    (tracks : host.Tracks status)
    {moment : Moment State}
    (consistent : moment.Consistent status)
    (limit : Option Seconds) :
    (moment.pool.shared = none ∧ moment.next host (.closeShared limit) = moment) ∨
    ∃ shared pool state,
      moment.pool.shared = some shared ∧
      Pool.Leads status (fun number => number = shared) moment.pool moment.state pool state ∧
      pool.shared = moment.pool.shared ∧
      (moment.next host (.closeShared limit) = ⟨pool, state, moment.handed⟩ ∨
        pool.Marked shared ∧
        moment.next host (.closeShared limit) =
          ⟨{ pool with shared := none }, state, moment.handed⟩) := by
  cases isShared : moment.pool.shared with
  | none => exact .inl ⟨rfl, by simp only [next, Pool.closeShared, isShared]⟩
  | some shared =>
      have leads := Pool.leads_close tracks shared limit moment.pool moment.state
      have sameShared := Pool.close_shared host shared limit moment.pool moment.state
      have marks : (moment.pool.close host shared limit moment.state).1 = .ok () →
          (moment.pool.close host shared limit moment.state).2.1.Marked shared :=
        Pool.marked_close (consistent.shared_lt isShared)
      rcases closing : moment.pool.close host shared limit moment.state with ⟨answer, pool, state⟩
      rw [closing] at leads sameShared marks
      refine .inr ⟨shared, pool, state, rfl, leads, sameShared.trans isShared, ?_⟩
      simp only [next, Pool.closeShared, isShared, closing]
      cases answer with
      | error failure => exact .inl rfl
      | ok _ => exact .inr ⟨marks rfl, rfl⟩

theorem consistent_closeShared
    (tracks : host.Tracks status)
    {moment : Moment State}
    (consistent : moment.Consistent status)
    (limit : Option Seconds) :
    (moment.next host (.closeShared limit)).Consistent status := by
  rcases next_closeShared_cases tracks consistent limit with
    ⟨-, same⟩ | ⟨shared, pool, state, isShared, leads, sameShared, failed | ⟨marked, forgot⟩⟩
  · rw [same]
    exact consistent
  · rw [failed]
    exact consistent.of_leads leads sameShared
  · rw [forgot]
    refine consistent.of_leads_none leads fun number latest => ?_
    rw [consistent.latest shared isShared, Option.some.injEq] at latest
    exact latest ▸ marked

/-- Every step keeps all in order. -/
theorem consistent_next
    (tracks : host.Tracks status)
    {moment : Moment State}
    {action : Action State}
    (consistent : moment.Consistent status)
    (possible : action.IsPossible status moment.state) :
    (moment.next host action).Consistent status := by
  cases action with
  | acquire config => exact consistent_acquire tracks consistent config
  | closeShared limit => exact consistent_closeShared tracks consistent limit
  | run number block =>
      have leads := Pool.leads_run tracks number block moment.pool moment.state
      exact consistent.of_leads leads (Pool.run_shared host number block moment.pool moment.state)
  | close number limit =>
      have leads := Pool.leads_close tracks number limit moment.pool moment.state
      exact consistent.of_leads leads (Pool.close_shared host number limit moment.pool moment.state)
  | elapse state =>
      have leads : Pool.Leads status (fun _ => False) moment.pool moment.state moment.pool state :=
        .of_advances possible
      exact consistent.of_leads leads rfl

/-- An executor that has ended stays so in every step, unless it is one of those that the
step acts on. -/
theorem abandonsEnded_of_leads
    {moment : Moment State}
    {touched : Nat → Prop}
    {pool : Pool}
    {state : State}
    (ended : moment.AbandonsEnded status)
    (leads : Pool.Leads status touched moment.pool moment.state pool state)
    (sameShared : pool.shared = moment.pool.shared)
    (touchedEnded : ∀ number, touched number → moment.Abandoned number →
      pool.Ended status number state) :
    AbandonsEnded status ⟨pool, state, moment.handed⟩ := by
  rintro number ⟨handed, notShared⟩
  have abandoned : moment.Abandoned number := ⟨handed, sameShared ▸ notShared⟩
  by_cases touches : touched number
  · exact touchedEnded number touches abandoned
  · exact leads.ended touches (ended number abandoned)

theorem abandonsEnded_acquire
    (tracks : host.Tracks status)
    {moment : Moment State}
    (consistent : moment.Consistent status)
    (ended : moment.AbandonsEnded status)
    (config : Config) :
    (moment.next host (.acquire config)).AbandonsEnded status := by
  rcases next_acquire_cases tracks consistent config with
    ⟨pool, leads, sameShared, same⟩ |
    ⟨touched, shared, pool, state, leads, isShared, -, replaced, passedOn, same⟩
  · rw [same]
    exact abandonsEnded_of_leads ended leads sameShared fun _ touches => touches.elim
  · rw [same]
    rintro number ⟨handed, notShared⟩
    have other : number ≠ shared := fun equal => notShared (equal ▸ isShared)
    have earlier : number ∈ moment.handed := (List.mem_cons.mp handed).resolve_left other
    by_cases touches : touched number
    · exact replaced number touches
    · have notSharedBefore : moment.pool.shared ≠ some number := fun wasShared =>
        (passedOn number wasShared).elim touches other
      exact leads.ended touches (ended number ⟨earlier, notSharedBefore⟩)

theorem abandonsEnded_closeShared
    (tracks : host.Tracks status)
    {moment : Moment State}
    (consistent : moment.Consistent status)
    (ended : moment.AbandonsEnded status)
    (limit : Option Seconds) :
    (moment.next host (.closeShared limit)).AbandonsEnded status := by
  rcases next_closeShared_cases tracks consistent limit with
    ⟨-, same⟩ | ⟨shared, pool, state, isShared, leads, sameShared, failed | ⟨marked, forgot⟩⟩
  · rw [same]
    exact ended
  · rw [failed]
    refine abandonsEnded_of_leads ended leads sameShared fun number same abandoned => ?_
    exact absurd (same ▸ isShared) abandoned.2
  · rw [forgot]
    rintro number ⟨handed, -⟩
    by_cases same : number = shared
    · exact same ▸ marked.ended state
    · have notShared : moment.pool.shared ≠ some number := by
        rw [isShared]
        exact fun equal => same (Option.some.inj equal).symm
      exact (leads.of_shared none).ended same (ended number ⟨handed, notShared⟩)

/-- No step opens an executor that is not shared any more, unless it is a close of it that
fails. -/
theorem abandonsEnded_next
    (tracks : host.Tracks status)
    {moment : Moment State}
    {action : Action State}
    (consistent : moment.Consistent status)
    (ended : moment.AbandonsEnded status)
    (possible : action.IsPossible status moment.state)
    (closes : ∀ number limit, action = .close number limit → moment.Abandoned number →
      (moment.pool.close host number limit moment.state).1 = .ok ()) :
    (moment.next host action).AbandonsEnded status := by
  cases action with
  | acquire config => exact abandonsEnded_acquire tracks consistent ended config
  | closeShared limit => exact abandonsEnded_closeShared tracks consistent ended limit
  | run number block =>
      have leads := Pool.leads_run tracks number block moment.pool moment.state
      have sameShared := Pool.run_shared host number block moment.pool moment.state
      refine abandonsEnded_of_leads ended leads sameShared fun other same abandoned => ?_
      rw [same] at abandoned ⊢
      exact Pool.ended_run tracks consistent.sound (ended number abandoned) block
  | close number limit =>
      have leads := Pool.leads_close tracks number limit moment.pool moment.state
      have sameShared := Pool.close_shared host number limit moment.pool moment.state
      refine abandonsEnded_of_leads ended leads sameShared fun other same abandoned => ?_
      rw [same] at abandoned ⊢
      have present := consistent.made number abandoned.1
      exact (Pool.ended_close_iff consistent.sound present limit).mpr
        (closes number limit rfl abandoned)
  | elapse state =>
      have leads : Pool.Leads status (fun _ => False) moment.pool moment.state moment.pool state :=
        .of_advances possible
      exact abandonsEnded_of_leads ended leads rfl (fun _ touches => touches.elim)

/-! ## What the calls of a moment get -/

theorem Consistent.shares
    (tracks : host.Tracks status)
    {moment : Moment State}
    (consistent : moment.Consistent status)
    {config : Config}
    (shares : config.reuseExecutor = true) :
    moment.Shares host config := by
  rcases acquire_cases tracks consistent shares with
    ⟨shared, isShared, sameConfig, isOpen, acquired⟩ |
    ⟨unfit, pool, state, acquired, -, found, -, -⟩
  · have latest := consistent.latest shared isShared
    have present := consistent.shared_lt isShared
    obtain ⟨executor, found⟩ := (Pool.executor?_isSome_iff shared moment.pool).mpr present
    obtain ⟨-, source, isOf⟩ := consistent.sound shared executor found
    have sameSource : source = config := by
      rw [found, Option.bind_some, isOf.source] at sameConfig
      exact Option.some.inj sameConfig
    refine ⟨shared, executor, _, _, acquired, found, ?_, sameSource ▸ isOf, ?_⟩
    · have openBefore : (executor.isClosed host moment.state).1 = false := by
        simpa only [Pool.isClosed, found] using isOpen
      rw [Executor.isClosed_answer tracks] at openBefore ⊢
      rwa [Pool.isClosed_status tracks shared moment.pool moment.state]
    · intro previous isPrevious
      rw [latest, Option.some.injEq] at isPrevious
      subst isPrevious
      exact ⟨fun _ => ⟨sameConfig, isOpen⟩, fun _ => rfl⟩
  · refine ⟨_, _, pool, state, acquired, found, Executor.isClosed_ofConfig tracks config state,
      Executor.isOf_ofConfig config, ?_⟩
    intro previous isPrevious
    have present := consistent.made previous (List.mem_of_head? isPrevious)
    constructor
    · intro same
      exact absurd present (same ▸ Nat.lt_irrefl _)
    · rintro ⟨sameConfig, isOpen⟩
      cases isShared : moment.pool.shared with
      | some shared =>
          rw [consistent.latest shared isShared, Option.some.injEq] at isPrevious
          subst isPrevious
          exact absurd ⟨sameConfig, isOpen⟩ (unfit shared isShared)
      | none =>
          have ended : moment.pool.Ended status previous moment.state :=
            (consistent.forgotten isShared previous isPrevious).ended moment.state
          rw [← Pool.isClosed_iff_ended tracks consistent.sound present, isOpen] at ended
          cases ended

theorem separates
    (tracks : host.Tracks status)
    (moment : Moment State)
    {config : Config}
    (apart : config.reuseExecutor = false) :
    moment.Separates host config := by
  have isOpen := Executor.isClosed_ofConfig tracks config moment.state
  refine ⟨_, Pool.acquire_apart apart moment.pool moment.state, rfl, rfl, ?_⟩
  simpa only [Pool.isClosed, Pool.executor?_add_self] using isOpen

theorem Consistent.abandonsClosed_iff
    (tracks : host.Tracks status)
    {moment : Moment State}
    (consistent : moment.Consistent status) :
    moment.AbandonsClosed host ↔ moment.AbandonsEnded status := by
  refine forall_congr' fun number => forall_congr' fun abandoned => ?_
  exact Pool.isClosed_iff_ended tracks consistent.sound (consistent.made number abandoned.1)

/-! ## Histories -/

theorem consistent_after
    (tracks : host.Tracks status)
    {start : State}
    {history past : List (Action State)}
    (possible : IsPossible host status start history)
    (happened : past <+: history) :
    (after host start past).Consistent status := by
  refine of_prefix (motive := fun past => (after host start past).Consistent status)
    (consistent_first start) (fun past action happened earlier => ?_) happened
  rw [after_concat]
  exact consistent_next tracks earlier (possible past action happened)

theorem abandonsEnded_after
    (tracks : host.Tracks status)
    {start : State}
    {history past : List (Action State)}
    (possible : IsPossible host status start history)
    (closes : ∀ past number limit, past ++ [.close number limit] <+: history →
      (after host start past).Abandoned number →
      ((after host start past).pool.close host number limit (after host start past).state).1 =
        .ok ())
    (happened : past <+: history) :
    (after host start past).AbandonsEnded status := by
  refine of_prefix (motive := fun past => (after host start past).AbandonsEnded status)
    (fun number abandoned => absurd abandoned.1 (by simp [after, first]))
    (fun past action happened earlier => ?_) happened
  have before := (List.prefix_append past [action]).trans happened
  rw [after_concat]
  refine abandonsEnded_next tracks (consistent_after tracks possible before) earlier
    (possible past action happened) ?_
  rintro number limit rfl abandoned
  exact closes past number limit happened abandoned

/-- If all executors that are not shared any more stay closed, no close of one fails. -/
theorem close_ok_of_abandonsClosed
    (tracks : host.Tracks status)
    {start : State}
    {history past : List (Action State)}
    {number : Nat}
    {limit : Option Seconds}
    (possible : IsPossible host status start history)
    (happened : past ++ [.close number limit] <+: history)
    (abandoned : (after host start past).Abandoned number)
    (closed : (after host start (past ++ [.close number limit])).AbandonsClosed host) :
    ((after host start past).pool.close host number limit (after host start past).state).1 =
      .ok () := by
  have before := (List.prefix_append past [.close number limit]).trans happened
  have consistent := consistent_after tracks possible before
  have ended := ((consistent_after tracks possible happened).abandonsClosed_iff tracks).mp closed
  have present := consistent.made number abandoned.1
  rw [after_concat] at ended
  refine (Pool.ended_close_iff consistent.sound present limit).mp (ended number ⟨abandoned.1, ?_⟩)
  rw [next, Pool.close_shared]
  exact abandoned.2

/-- At every moment of every history, a call that allows sharing gets an open executor of its
configuration, the latest one exactly if that fits and is open, and a call that does not
gets a new one beside all others.  An executor is closed exactly if it was closed or the
shell that it holds has exited.  All executors that are not shared any more are closed at
every moment exactly if no close of such an executor fails, and none fails if all times can
be waited for. -/
theorem sharing_throughout
    (tracks : host.Tracks status)
    (start : State)
    (history : List (Action State))
    (possible : IsPossible host status start history) :
    (∀ past, past <+: history → ∀ config : Config,
      (config.reuseExecutor = true → (after host start past).Shares host config) ∧
      (config.reuseExecutor = false → (after host start past).Separates host config)) ∧
    (∀ past, past <+: history → ∀ number executor,
      (after host start past).pool.executor? number = some executor →
      ((executor.isClosed host (after host start past).state).1 = true ↔
        executor.closed = true ∨ ∃ shell, executor.process? = some shell ∧
          status (after host start past).state shell = .exited)) ∧
    ((∀ past, past <+: history → (after host start past).AbandonsClosed host) ↔
      ∀ past number limit, past ++ [.close number limit] <+: history →
        (after host start past).Abandoned number →
        ((after host start past).pool.close host number limit (after host start past).state).1 =
          .ok ()) ∧
    ((∀ number limit, .close number limit ∈ history → limit.all Seconds.canBeAdded = true) →
      ∀ past, past <+: history → (after host start past).AbandonsClosed host) := by
  have closedWhile (closes : ∀ past number limit, past ++ [.close number limit] <+: history →
      (after host start past).Abandoned number →
      ((after host start past).pool.close host number limit (after host start past).state).1 =
        .ok ())
      (past : List (Action State))
      (happened : past <+: history) :
      (after host start past).AbandonsClosed host :=
    ((consistent_after tracks possible happened).abandonsClosed_iff tracks).mpr
      (abandonsEnded_after tracks possible closes happened)
  refine ⟨?_, ?_, ⟨?_, closedWhile⟩, ?_⟩
  · intro past happened config
    have consistent := consistent_after tracks possible happened
    exact ⟨fun shares => consistent.shares tracks shares, fun apart => separates tracks _ apart⟩
  · intro past happened number executor found
    have sound := ((consistent_after tracks possible happened).sound number executor found).1
    exact Executor.isClosed_iff_ended tracks sound
  · intro closed past number limit happened abandoned
    exact close_ok_of_abandonsClosed tracks possible happened abandoned (closed _ happened)
  · intro canWait past happened
    refine closedWhile (fun earlier number limit happenedEarlier _ => ?_) past happened
    have present : .close number limit ∈ history := happenedEarlier.subset (by simp)
    exact Pool.close_ok tracks (canWait number limit present) number _ _

/-! ## An executor that opens again -/

/-- A configuration whose blocks all run in one shell. -/
def shellConfig : Config :=
  { mode := .shell }

/-- A block that ends the shell in which it is run. -/
def exitBlock : Block where
  start := 1
  stop := 1
  language := Language.shellscript
  code := "exit"
  anchor := 0

/-- A number of seconds that is too great to be added to a time. -/
def longLimit : Seconds :=
  .whole (Int.ofNat (Nat.pow 10 400))

/-- A machine on which the first shell has exited. -/
def exitedMachine : Machine :=
  .withWorkers [Machine.shellWorker "" true]

/-- The shell of the first executor exits, and a second executor takes the place of the
first. -/
def replacing : List (Action Machine) :=
  [.acquire shellConfig, .run 0 exitBlock, .elapse exitedMachine, .acquire shellConfig]

/-- An executor whose session holds the first shell. -/
def heldExecutor : Executor :=
  { Executor.ofConfig shellConfig with engine := .shell ⟨Session.defaultShell, some 0⟩ }

/-- A session that takes the block lets a run of it succeed. -/
theorem run_exitBlock_of_send
    {executor : Executor}
    {session session' : Session}
    {before after last : State}
    (runners : executor.runners = shellConfig.registry)
    (engine : executor.engine = .shell session)
    (isOpen : executor.isClosed host before = (false, after))
    (sent : session.send host (Executor.compound exitBlock.code) after = (.ok (), session', last)) :
    executor.run host exitBlock before =
      (.ok ⟨Executor.compound exitBlock.code, none⟩,
        { executor with engine := .shell session' }, last) := by
  have hasRunner : (shellConfig.registry.get? exitBlock.language).isSome = true := by
    decide +kernel
  obtain ⟨runner, found⟩ := Option.isSome_iff_exists.mp hasRunner
  have isShell : exitBlock.language = Language.shellscript := rfl
  have ran : Executor.runShell host runner exitBlock session after =
      (.ok ⟨Executor.compound exitBlock.code, none⟩, session', last) := by
    rw [Executor.runShell, if_pos isShell, Executor.sendText]
    simp only [sent]
  simp only [Executor.run, isOpen, runners, found, engine, ran]

theorem exitBlock_short :
    ¬Machine.pipeSize < (Shell.ofText (Executor.compound exitBlock.code)).length := by
  decide +kernel

theorem run_exitBlock :
    (Executor.ofConfig shellConfig).run Machine.host exitBlock (.withWorkers []) =
      (.ok ⟨Executor.compound exitBlock.code, none⟩, heldExecutor,
        .withWorkers [Machine.shellWorker (Executor.compound exitBlock.code) false]) := by
  have ensured : (Session.ofShell Session.defaultShell).ensure Machine.host (.withWorkers []) =
      (.ok 0, ⟨Session.defaultShell, some 0⟩, .withWorkers [Machine.shellWorker "" false]) := by
    simp only [Session.ensure_eq_launch, Session.ofShell, Session.launch,
      Machine.startShell_withWorkers, List.length_nil, List.nil_append]
  have written := Machine.writeShell_withWorkers [] exitBlock_short
  simp only [List.length_nil, List.nil_append] at written
  refine run_exitBlock_of_send rfl rfl rfl (?_ : (Session.ofShell _).send _ _ _ = _)
  simp only [Session.send, ensured, written]

theorem after_run :
    after Machine.host (.withWorkers []) [.acquire shellConfig, .run 0 exitBlock] =
      ⟨⟨[heldExecutor], some 0⟩,
        .withWorkers [Machine.shellWorker (Executor.compound exitBlock.code) false], [0]⟩ := by
  have acquired : after Machine.host (.withWorkers []) [.acquire shellConfig] =
      ⟨⟨[Executor.ofConfig shellConfig], some 0⟩, .withWorkers [], [0]⟩ := rfl
  rw [show [Action.acquire shellConfig, .run 0 exitBlock] =
    [.acquire shellConfig] ++ [.run 0 exitBlock] from rfl, after_concat, acquired]
  simp only [next, Pool.run, Pool.executor?, List.getElem?_cons_zero, run_exitBlock]
  rfl

theorem after_replacing :
    after Machine.host (.withWorkers []) replacing =
      ⟨⟨[heldExecutor, Executor.ofConfig shellConfig], some 1⟩, exitedMachine, [1, 0]⟩ := by
  rw [show replacing = ([.acquire shellConfig, .run 0 exitBlock] ++ [.elapse exitedMachine]) ++
    [.acquire shellConfig] from rfl, after_concat, after_concat, after_run]
  rfl

theorem close_heldExecutor :
    heldExecutor.close Machine.host (some longLimit) exitedMachine =
      (.error .tooLong, Executor.ofConfig shellConfig, exitedMachine) := by
  have tooLong : longLimit.canBeAdded = false := by decide +kernel
  have fails : Machine.host.endShell 0 (some longLimit) exitedMachine =
      (.error .tooLong, exitedMachine) := by
    simp only [Machine.host, Machine.endShell, Option.all, tooLong]
    rfl
  have engine : heldExecutor.engine = .shell ⟨Session.defaultShell, some 0⟩ := rfl
  simp only [Executor.close, engine, Session.close, fails]
  rfl

/-- The shell that the second call started may have exited at the third. -/
theorem advances_exitedMachine (text : String) :
    Advances (Machine.withWorkers [Machine.shellWorker text false]).shellStatus
      exitedMachine.shellStatus := by
  have found : (Machine.withWorkers [Machine.shellWorker text false]).workers[0]? =
      some (Machine.shellWorker text false) := rfl
  have exits : exitedMachine.workers =
      (Machine.withWorkers [Machine.shellWorker text false]).workers.set 0
        (Machine.shellWorker "" true) := rfl
  exact Machine.advances_set found exits (Nat.le_succ 1)

theorem isPossible_replacing :
    IsPossible Machine.host Machine.shellStatus (.withWorkers [])
      (replacing ++ [.close 0 (some longLimit)]) := by
  have acquires : IsPossible Machine.host Machine.shellStatus (.withWorkers [])
      ([] ++ [.acquire shellConfig]) := (isPossible_nil _).concat trivial
  have runs : IsPossible Machine.host Machine.shellStatus (.withWorkers [])
      ([.acquire shellConfig] ++ [.run 0 exitBlock]) := acquires.concat trivial
  have waits : IsPossible Machine.host Machine.shellStatus (.withWorkers [])
      ([.acquire shellConfig, .run 0 exitBlock] ++ [.elapse exitedMachine]) := by
    refine runs.concat ?_
    change Advances (after Machine.host _ [_, _]).state.shellStatus exitedMachine.shellStatus
    rw [after_run]
    exact advances_exitedMachine _
  have replaces : IsPossible Machine.host Machine.shellStatus (.withWorkers [])
      ([.acquire shellConfig, .run 0 exitBlock, .elapse exitedMachine] ++
        [.acquire shellConfig]) := waits.concat trivial
  exact replaces.concat trivial

/-- The first executor is closed, as its shell has exited, until a close of it fails. -/
theorem not_abandonsClosed_replacing :
    IsPossible Machine.host Machine.shellStatus (.withWorkers [])
      (replacing ++ [.close 0 (some longLimit)]) ∧
    ((after Machine.host (.withWorkers []) replacing).pool.isClosed Machine.host 0
      (after Machine.host (.withWorkers []) replacing).state).1 = true ∧
    ¬∀ past, past <+: replacing ++ [.close 0 (some longLimit)] →
      (after Machine.host (.withWorkers []) past).AbandonsClosed Machine.host := by
  refine ⟨isPossible_replacing, by rw [after_replacing]; rfl, fun closed => ?_⟩
  have isOpen := Executor.isClosed_ofConfig Machine.tracks shellConfig exitedMachine
  have abandoned := closed _ (List.prefix_refl _) 0
  rw [after_concat, after_replacing] at abandoned
  simp only [next, Pool.close, Pool.executor?, List.getElem?_cons_zero, close_heldExecutor]
    at abandoned
  have isClosed := abandoned ⟨by simp, by simp [Pool.put]⟩
  exact Bool.false_ne_true (isOpen.symm.trans isClosed)

/-- The statement on sharing, for that history. -/
theorem sharing_replacing :
    Machine.host.Tracks Machine.shellStatus ∧
    IsPossible Machine.host Machine.shellStatus (.withWorkers [])
      (replacing ++ [.close 0 (some longLimit)]) ∧
    (∀ past, past <+: replacing ++ [.close 0 (some longLimit)] → ∀ config : Config,
      (config.reuseExecutor = true →
        (after Machine.host (.withWorkers []) past).Shares Machine.host config) ∧
      (config.reuseExecutor = false →
        (after Machine.host (.withWorkers []) past).Separates Machine.host config)) :=
  ⟨Machine.tracks, isPossible_replacing,
    (sharing_throughout Machine.tracks (.withWorkers []) _ isPossible_replacing).1⟩

end Moment
end Snippets
