import Snippets.Execution.Pool
import Snippets.Proofs.Execution.Closing

/-!
# What calls make of a pool

A call on one executor of a pool leaves all others as they are.  A pool is sound if its
executors are, each made from a configuration.  The statements on `acquire` give its three
outcomes: a new executor beside the shared one, the shared one itself, or a new shared one
after the end of the old.
-/

namespace Snippets
namespace Pool

open ShellStatus (Advances)

variable {State : Type} {host : Host State} {status : State → Nat → ShellStatus}

/-- Whether every executor of a pool is sound and was made from a configuration. -/
def Sound (status : State → Nat → ShellStatus) (pool : Pool) (state : State) : Prop :=
  ∀ number executor, pool.executor? number = some executor →
    executor.Sound status state ∧ ∃ config, executor.IsOf config

/-- Whether the executor of a number was closed or the shell that it holds has exited. -/
def Ended
    (status : State → Nat → ShellStatus)
    (number : Nat)
    (pool : Pool)
    (state : State) : Prop :=
  ∃ executor, pool.executor? number = some executor ∧ executor.Ended status state

/-- Whether the executor of a number is marked as closed. -/
def Marked (number : Nat) (pool : Pool) : Prop :=
  ∃ executor, pool.executor? number = some executor ∧ executor.closed = true

/-- What a call may make of a pool and of the state when it acts on some executors: no
shell goes back, the executors stay sound and stay marked as closed, and the others stay as
they are. -/
structure Leads
    (status : State → Nat → ShellStatus)
    (touched : Nat → Prop)
    (pool : Pool)
    (state : State)
    (pool' : Pool)
    (state' : State) : Prop where
  advances : Advances (status state) (status state')
  size : pool.executors.length ≤ pool'.executors.length
  sound : pool.Sound status state → pool'.Sound status state'
  marked : ∀ number, pool.Marked number → pool'.Marked number
  others : ∀ number, number < pool.executors.length → ¬touched number →
    pool'.executor? number = pool.executor? number

/-! ## Executors by their numbers -/

theorem executor?_isSome_iff (number : Nat) (pool : Pool) :
    (∃ executor, pool.executor? number = some executor) ↔ number < pool.executors.length := by
  rw [executor?, ← Option.isSome_iff_exists, isSome_getElem?]

theorem executor?_add_self (executor : Executor) (pool : Pool) :
    (pool.add executor).2.executor? pool.executors.length = some executor := by
  simp [add, executor?]

theorem executor?_add_of_lt
    {number : Nat}
    {pool : Pool}
    (present : number < pool.executors.length)
    (executor : Executor) :
    (pool.add executor).2.executor? number = pool.executor? number := by
  simp [add, executor?, List.getElem?_append_left present]

theorem executor?_put_self
    {number : Nat}
    {pool : Pool}
    (present : number < pool.executors.length)
    (executor : Executor) :
    (pool.put number executor).executor? number = some executor := by
  simp [put, executor?, present]

theorem executor?_put_of_ne
    {number other : Nat}
    (different : other ≠ number)
    (executor : Executor)
    (pool : Pool) :
    (pool.put number executor).executor? other = pool.executor? other := by
  simp [put, executor?, List.getElem?_set_ne different.symm]

theorem Marked.ended
    {number : Nat}
    {pool : Pool}
    (marked : pool.Marked number)
    (state : State) :
    pool.Ended status number state := by
  obtain ⟨executor, found, closed⟩ := marked
  exact ⟨executor, found, .inl closed⟩

theorem Ended.lt
    {number : Nat}
    {pool : Pool}
    {state : State}
    (ended : pool.Ended status number state) :
    number < pool.executors.length := by
  obtain ⟨executor, found, _⟩ := ended
  exact (executor?_isSome_iff number pool).mp ⟨executor, found⟩

/-! ## Steps of pools -/

namespace Leads

variable {touched : Nat → Prop} {pool : Pool} {state : State}

/-- An executor that has ended stays so under calls on others. -/
theorem ended
    {pool' : Pool}
    {state' : State}
    {number : Nat}
    (leads : Leads status touched pool state pool' state')
    (untouched : ¬touched number)
    (ended : pool.Ended status number state) :
    pool'.Ended status number state' := by
  have present := ended.lt
  obtain ⟨executor, found, ended⟩ := ended
  exact ⟨executor, (leads.others number present untouched).trans found,
    ended.advances leads.advances⟩

theorem of_advances
    {state' : State}
    (advances : Advances (status state) (status state')) :
    Leads status touched pool state pool state' where
  advances := advances
  size := Nat.le_refl _
  sound := fun sound number executor found =>
    ⟨(sound number executor found).1.advances advances, (sound number executor found).2⟩
  marked := fun _ marked => marked
  others := fun _ _ _ => rfl

theorem trans
    {pool' pool'' : Pool}
    {state' state'' : State}
    (earlier : Leads status touched pool state pool' state')
    (later : Leads status touched pool' state' pool'' state'') :
    Leads status touched pool state pool'' state'' where
  advances := earlier.advances.trans later.advances
  size := Nat.le_trans earlier.size later.size
  sound := fun sound => later.sound (earlier.sound sound)
  marked := fun number marked => later.marked number (earlier.marked number marked)
  others := fun number present untouched =>
    (later.others number (Nat.lt_of_lt_of_le present earlier.size) untouched).trans
      (earlier.others number present untouched)

/-- A step of one executor is a step of the pool. -/
theorem of_executor
    {number : Nat}
    {executor executor' : Executor}
    {state' : State}
    (found : pool.executor? number = some executor)
    (touches : touched number)
    (leads : Executor.Leads status executor state executor' state') :
    Leads status touched pool state (pool.put number executor') state' := by
  have present := (executor?_isSome_iff number pool).mp ⟨executor, found⟩
  have putSelf := executor?_put_self present executor'
  refine ⟨leads.advances, by simp [put], fun sound other chosen foundChosen => ?_,
    fun other marked => ?_, fun other _ untouched => ?_⟩
  · by_cases same : other = number
    · subst same
      rw [putSelf, Option.some.injEq] at foundChosen
      subst foundChosen
      obtain ⟨soundBefore, config, isOf⟩ := sound other executor found
      exact ⟨leads.sound soundBefore, config, leads.isOf config isOf⟩
    · rw [executor?_put_of_ne same] at foundChosen
      obtain ⟨soundBefore, made⟩ := sound other chosen foundChosen
      exact ⟨soundBefore.advances leads.advances, made⟩
  · obtain ⟨chosen, foundChosen, closed⟩ := marked
    by_cases same : other = number
    · subst same
      rw [found, Option.some.injEq] at foundChosen
      subst foundChosen
      exact ⟨executor', putSelf, leads.closed closed⟩
    · exact ⟨chosen, (executor?_put_of_ne same executor' pool).trans foundChosen, closed⟩
  · have different : other ≠ number := by
      rintro rfl
      exact untouched touches
    exact executor?_put_of_ne different executor' pool

/-- A new executor changes none of those that are there. -/
theorem of_add (config : Config) :
    Leads status touched pool state (pool.add (Executor.ofConfig config)).2 state := by
  refine ⟨Advances.refl _, by simp [add], fun sound number executor found => ?_,
    fun number marked => ?_, fun number present _ => executor?_add_of_lt present _⟩
  · have present := (executor?_isSome_iff number _).mp ⟨executor, found⟩
    rw [add, List.length_append, List.length_singleton] at present
    rcases Nat.lt_succ_iff_lt_or_eq.mp present with old | new
    · rw [executor?_add_of_lt old] at found
      exact sound number executor found
    · subst new
      rw [executor?_add_self, Option.some.injEq] at found
      subst found
      exact ⟨Executor.sound_ofConfig config state, config, Executor.isOf_ofConfig config⟩
  · obtain ⟨executor, found, closed⟩ := marked
    have present := (executor?_isSome_iff number pool).mp ⟨executor, found⟩
    exact ⟨executor, (executor?_add_of_lt present _).trans found, closed⟩

/-- Which executor is shared is no matter of the executors. -/
theorem of_shared
    {pool' : Pool}
    {state' : State}
    (leads : Leads status touched pool state pool' state')
    (shared : Option Nat) :
    Leads status touched pool state { pool' with shared := shared } state' :=
  ⟨leads.advances, leads.size, leads.sound, leads.marked, leads.others⟩

end Leads

/-! ## Asking, running and closing -/

/-- An executor of a sound pool is closed exactly if it has ended. -/
theorem isClosed_iff_ended
    (tracks : host.Tracks status)
    {number : Nat}
    {pool : Pool}
    {state : State}
    (sound : pool.Sound status state)
    (present : number < pool.executors.length) :
    (pool.isClosed host number state).1 = true ↔ pool.Ended status number state := by
  obtain ⟨executor, found⟩ := (executor?_isSome_iff number pool).mpr present
  have same := Executor.isClosed_iff_ended tracks (sound number executor found).1
  simp only [isClosed, found, Ended, Option.some.injEq, exists_eq_left']
  exact same

theorem isClosed_status
    (tracks : host.Tracks status)
    (number : Nat)
    (pool : Pool)
    (state : State) :
    status (pool.isClosed host number state).2 = status state := by
  unfold isClosed
  split
  · rfl
  · exact Executor.isClosed_status tracks _ state

theorem leads_run
    (tracks : host.Tracks status)
    (number : Nat)
    (block : Block)
    (pool : Pool)
    (state : State) :
    Leads status (· = number) pool state (pool.run host number block state).2.1
      (pool.run host number block state).2.2 := by
  unfold run
  cases found : pool.executor? number with
  | none => exact .of_advances (Advances.refl _)
  | some executor => exact .of_executor found rfl (Executor.leads_run tracks block executor state)

theorem run_shared
    (host : Host State)
    (number : Nat)
    (block : Block)
    (pool : Pool)
    (state : State) :
    (pool.run host number block state).2.1.shared = pool.shared := by
  unfold run
  split <;> rfl

/-- A run does not open an executor that has ended. -/
theorem ended_run
    (tracks : host.Tracks status)
    {number : Nat}
    {pool : Pool}
    {state : State}
    (sound : pool.Sound status state)
    (ended : pool.Ended status number state)
    (block : Block) :
    (pool.run host number block state).2.1.Ended status number
      (pool.run host number block state).2.2 := by
  have present := ended.lt
  obtain ⟨executor, found, ended⟩ := ended
  have closed := (Executor.isClosed_iff_ended tracks (sound number executor found).1).mpr ended
  have same := Executor.isClosed_status tracks executor state
  have refused := Executor.run_of_isClosed closed block
  simp only [run, found, refused]
  exact ⟨executor, executor?_put_self present executor, ended.advances (.of_eq same)⟩

theorem leads_close
    (tracks : host.Tracks status)
    (number : Nat)
    (limit : Option Seconds)
    (pool : Pool)
    (state : State) :
    Leads status (· = number) pool state (pool.close host number limit state).2.1
      (pool.close host number limit state).2.2 := by
  unfold close
  cases found : pool.executor? number with
  | none => exact .of_advances (Advances.refl _)
  | some executor => exact .of_executor found rfl (Executor.leads_close tracks limit executor state)

theorem close_shared
    (host : Host State)
    (number : Nat)
    (limit : Option Seconds)
    (pool : Pool)
    (state : State) :
    (pool.close host number limit state).2.1.shared = pool.shared := by
  unfold close
  split <;> rfl

theorem close_length
    (host : Host State)
    (number : Nat)
    (limit : Option Seconds)
    (pool : Pool)
    (state : State) :
    (pool.close host number limit state).2.1.executors.length = pool.executors.length := by
  unfold close
  split
  · rfl
  · simp [put]

theorem close_ok
    (tracks : host.Tracks status)
    {limit : Option Seconds}
    (canWait : limit.all Seconds.canBeAdded = true)
    (number : Nat)
    (pool : Pool)
    (state : State) :
    (pool.close host number limit state).1 = .ok () := by
  unfold close
  cases pool.executor? number with
  | none => rfl
  | some executor => exact Executor.close_ok tracks canWait executor state

/-- An executor that was closed is marked so. -/
theorem marked_close
    {number : Nat}
    {limit : Option Seconds}
    {pool : Pool}
    {state : State}
    (present : number < pool.executors.length)
    (answer : (pool.close host number limit state).1 = .ok ()) :
    (pool.close host number limit state).2.1.Marked number := by
  obtain ⟨executor, found⟩ := (executor?_isSome_iff number pool).mpr present
  simp only [close, found] at answer ⊢
  exact ⟨_, executor?_put_self present _,
    (Executor.close_closed_iff limit executor state).mpr (.inr answer)⟩

/-- After a close an executor of a sound pool has ended exactly if the close did not
fail. -/
theorem ended_close_iff
    {number : Nat}
    {pool : Pool}
    {state : State}
    (sound : pool.Sound status state)
    (present : number < pool.executors.length)
    (limit : Option Seconds) :
    (pool.close host number limit state).2.1.Ended status number
        (pool.close host number limit state).2.2 ↔
      (pool.close host number limit state).1 = .ok () := by
  obtain ⟨executor, found⟩ := (executor?_isSome_iff number pool).mpr present
  simp only [close, found, Ended, executor?_put_self present, Option.some.injEq, exists_eq_left']
  exact Executor.ended_close_iff (sound number executor found).1 limit

/-- An executor that is closed unless it is closed already has ended. -/
theorem closeIfOpen_spec
    (tracks : host.Tracks status)
    {number : Nat}
    {pool : Pool}
    {state : State}
    (sound : pool.Sound status state)
    (present : number < pool.executors.length) :
    (pool.closeIfOpen host number state).1 = .ok () ∧
      (pool.closeIfOpen host number state).2.1.executors.length = pool.executors.length ∧
      Leads status (· = number) pool state (pool.closeIfOpen host number state).2.1
        (pool.closeIfOpen host number state).2.2 ∧
      (pool.closeIfOpen host number state).2.1.Ended status number
        (pool.closeIfOpen host number state).2.2 := by
  have closed := isClosed_iff_ended tracks sound present
  have same := isClosed_status tracks number pool state
  unfold closeIfOpen
  rcases asked : pool.isClosed host number state with ⟨answer, after⟩
  rw [asked] at closed same
  have waits : Leads status (· = number) pool state pool after := .of_advances (.of_eq same)
  cases answer with
  | true =>
      obtain ⟨executor, found, ended⟩ := closed.mp rfl
      exact ⟨rfl, rfl, waits, executor, found, ended.advances waits.advances⟩
  | false =>
      have canWait : (some Session.defaultLimit).all Seconds.canBeAdded = true := by
        decide +kernel
      have answers := close_ok tracks canWait number pool after
      exact ⟨answers, close_length host number _ pool after,
        waits.trans (leads_close tracks number _ pool after), (marked_close present answers).ended _⟩

/-! ## Getting an executor -/

/-- Without sharing there is a new executor, and all else stays as it is. -/
theorem acquire_apart
    {config : Config}
    (apart : config.reuseExecutor = false)
    (pool : Pool)
    (state : State) :
    pool.acquire host config state =
      (.ok pool.executors.length, (pool.add (Executor.ofConfig config)).2, state) := by
  simp [acquire, apart, add]

/-- The shared executor is handed out as long as it is open and of the right
configuration. -/
theorem acquire_kept
    {config : Config}
    {shared : Nat}
    {pool : Pool}
    {state : State}
    (shares : config.reuseExecutor = true)
    (isShared : pool.shared = some shared)
    (sameConfig : (pool.executor? shared).bind Executor.config = some config)
    (isOpen : (pool.isClosed host shared state).1 = false) :
    pool.acquire host config state =
      (.ok shared, pool, (pool.isClosed host shared state).2) := by
  simp [acquire, shares, isShared, sameConfig, isOpen]

/-- A shared executor of the right configuration that is as good as new is handed out, and nobody
has to ask the host. -/
theorem acquire_of_isNew
    {config : Config}
    {shared : Nat}
    {pool : Pool}
    {executor : Executor}
    (shares : config.reuseExecutor = true)
    (isShared : pool.shared = some shared)
    (found : pool.executor? shared = some executor)
    (isNew : executor.IsNew)
    (isOf : executor.IsOf config)
    (state : State) :
    pool.acquire host config state = (.ok shared, pool, state) := by
  have isOpen : pool.isClosed host shared state = (false, state) := by
    rw [isClosed, found]
    exact isNew.isClosed state
  have sameConfig : (pool.executor? shared).bind Executor.config = some config := by
    rw [found]
    exact isOf.source
  rw [acquire_kept shares isShared sameConfig (congrArg Prod.fst isOpen), isOpen]

/-- Otherwise the shared executor, if there is one, ends, and a new one takes its place. -/
theorem acquire_new
    (tracks : host.Tracks status)
    {config : Config}
    {pool : Pool}
    {state : State}
    (sound : pool.Sound status state)
    (present : ∀ shared, pool.shared = some shared → shared < pool.executors.length)
    (shares : config.reuseExecutor = true)
    (unfit : ∀ shared, pool.shared = some shared →
      ¬((pool.executor? shared).bind Executor.config = some config ∧
        (pool.isClosed host shared state).1 = false)) :
    ∃ pool' state',
      pool.acquire host config state = (.ok pool.executors.length, pool', state') ∧
      pool'.shared = some pool.executors.length ∧
      pool'.executor? pool.executors.length = some (Executor.ofConfig config) ∧
      Leads status (fun number => pool.shared = some number) pool state pool' state' ∧
      ∀ shared, pool.shared = some shared → pool'.Ended status shared state' := by
  cases isShared : pool.shared with
  | none =>
      refine ⟨(pool.share config).2, state, by simp [acquire, shares, isShared, share, add], rfl,
        executor?_add_self _ pool, (Leads.of_add config).of_shared _, by simp⟩
  | some shared =>
      have here := present shared isShared
      have same := isClosed_status tracks shared pool state
      rcases asked : pool.isClosed host shared state with ⟨closed, after⟩
      rw [asked] at same
      have waits : Leads status (· = shared) pool state pool after := .of_advances (.of_eq same)
      obtain ⟨answer, size, closes, ended⟩ := closeIfOpen_spec tracks (waits.sound sound) here
      rcases closing : pool.closeIfOpen host shared after with ⟨outcome, closedPool, last⟩
      rw [closing] at answer size closes ended
      cases answer
      have adds : Leads status (· = shared) closedPool last (closedPool.share config).2 last :=
        (Leads.of_add config).of_shared _
      refine ⟨(closedPool.share config).2, last, ?_, ?_, ?_, ?_, ?_⟩
      · have replaces : (!closed && (pool.executor? shared).bind Executor.config == some config) =
            false := by
          have notBoth := unfit shared isShared
          rw [asked] at notBoth
          cases closed with
          | true => rfl
          | false => simpa using notBoth
        simp [acquire, shares, isShared, asked, replaces, closing, share, add, size]
      · simp [share, add, size]
      · rw [← size]
        exact executor?_add_self _ closedPool
      · have leads := (waits.trans closes).trans adds
        simpa only [Option.some.injEq, eq_comm] using leads
      · rintro _ ⟨⟩
        obtain ⟨executor, found, ended⟩ := ended
        have old : shared < closedPool.executors.length := size ▸ here
        exact ⟨executor, (executor?_add_of_lt old _).trans found, ended⟩

end Pool
end Snippets
