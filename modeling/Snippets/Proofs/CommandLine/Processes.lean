import Snippets.Proofs.CommandLine.ExitCodes
import Snippets.Proofs.Execution.MachineShells
import Snippets.Proofs.Execution.Pools
import Snippets.Proofs.Lists

/-!
# Commands of one process

All commands that are called in a process share its executors.  They are meant to stand apart all
the same, for each closes the executor on which it has run a block, however that ended.  The main
statement says how far they do.  As long as every call before could close its executor, a call does
what it does in a process of its own, on an executor that it makes for its configuration.  After
each call none is shared and all that were made are closed, as long as no wait for the shell of a
session fails.  One that the user interrupts does, and leaves the executor open, for the next call
to run its block on.
-/

namespace Snippets

/-- Whether the end of a shell can be waited for without a limit. -/
def Host.Waits {State : Type} (host : Host State) : Prop :=
  ∀ shell state, (host.endShell shell none state).1 = .ok ()

theorem Host.Tracks.waits
    {State : Type}
    {host : Host State}
    {status : State → Nat → ShellStatus}
    (tracks : host.Tracks status) :
    host.Waits :=
  fun shell state => tracks.ended shell none state rfl

namespace CommandLine

/-- The executors of a process, and the host that it runs on. -/
structure Process (State : Type) where
  /-- The executors. -/
  pool : Pool
  /-- The state of the host. -/
  state : State

/-- A call of a command in a process. -/
structure Call (State : Type) where
  /-- What has become of the host since the call before. -/
  pass : State → State
  /-- The files and variables that the command finds. -/
  environment : Environment
  /-- The arguments of the command. -/
  arguments : List String

namespace Process

variable {State : Type} {clocked : ClockedHost State}

/-- What a command reports, and the process after it. -/
def call (clocked : ClockedHost State) (process : Process State) (call : Call State) :
    Report × Process State :=
  let (report, pool, state) :=
    runIn clocked call.environment call.arguments process.pool (call.pass process.state)
  (report, ⟨pool, state⟩)

/-- A process after some commands were called in it. -/
def callAll (clocked : ClockedHost State) (process : Process State) (calls : List (Call State)) :
    Process State :=
  calls.foldl (fun process call => (process.call clocked call).2) process

/-- Whether a process shares no executor and has closed all that it has made since an earlier
moment. -/
structure Settled (start process : Process State) : Prop where
  unshared : process.pool.shared = none
  closed : ∃ own, process.pool.executors = start.pool.executors ++ own ∧
    ∀ executor ∈ own, executor.closed = true

theorem Settled.refl
    {process : Process State}
    (unshared : process.pool.shared = none) :
    Settled process process :=
  ⟨unshared, [], (List.append_nil _).symm, by simp⟩

theorem Settled.trans
    {first second third : Process State}
    (earlier : Settled first second)
    (later : Settled second third) :
    Settled first third := by
  obtain ⟨before, executorsBefore, closedBefore⟩ := earlier.closed
  obtain ⟨own, executors, closed⟩ := later.closed
  refine ⟨later.unshared, before ++ own, ?_, fun executor present => ?_⟩
  · rw [executors, executorsBefore, List.append_assoc]
  · rcases List.mem_append.mp present with old | new
    · exact closedBefore executor old
    · exact closed executor new

/-- What is made between two settled moments is closed at the later one. -/
theorem Settled.of_append
    {start before after : Process State}
    {more : List Executor}
    (earlier : Settled start before)
    (later : Settled start after)
    (grows : after.pool.executors = before.pool.executors ++ more) :
    Settled before after := by
  obtain ⟨own, executors, -⟩ := earlier.closed
  obtain ⟨all, allExecutors, closed⟩ := later.closed
  rw [grows, executors, List.append_assoc] at allExecutors
  cases List.append_cancel_left allExecutors
  exact ⟨later.unshared, more, grows, fun executor present =>
    closed executor (List.mem_append_right own present)⟩

/-- Whether a call comes to run a block: its arguments ask for that, the block is found, and the
run is announced by some lines. -/
structure Reaches (call : Call State) (request : RunRequest) (opened : Opened) (block : Block)
    (lines : List String) : Prop where
  asks : Request.ofArguments? call.arguments = some (.run request)
  found : target call.environment request = .ok (opened, block)
  announced :
    Message.allLines (if request.quiet then [] else [announcement opened block]) = .ok lines

theorem exists_reaches_or (call : Call State) :
    (∃ request opened block lines, Reaches call request opened block lines) ∨
      ∀ request opened block lines, ¬Reaches call request opened block lines := by
  by_cases reaches : ∃ request opened block lines, Reaches call request opened block lines
  · exact .inl reaches
  · exact .inr (by simpa using reaches)

/-- Whether a call has its executor closed, if it comes to run a block. -/
def Drains (clocked : ClockedHost State) (process : Process State) (call : Call State) : Prop :=
  ∀ request opened block lines, Reaches call request opened block lines →
    ∃ result,
      (performIn clocked.host opened.config block process.pool (call.pass process.state)).1 =
        .ran result (.ok ())

/-- Whether each of some calls has its executor closed. -/
def AllDrain (clocked : ClockedHost State) (start : Process State) (calls : List (Call State)) :
    Prop :=
  ∀ past call, past ++ [call] <+: calls → Drains clocked (start.callAll clocked past) call

/-- Whether a call does in a process what it does in one of its own: it reports the same and
leaves the host in the same state.  If it comes to run a block, it does so on a new executor of its
configuration.  It closes the executor unless that fails, and reports what came of both.  Otherwise
it makes none. -/
structure StandsApart (clocked : ClockedHost State) (call : Call State) (before : Process State)
    (report : Report) (after : Process State) : Prop where
  alone : run clocked call.environment call.arguments (call.pass before.state) =
    (report, after.state)
  ran : ∀ request opened block lines, Reaches call request opened block lines →
    ∃ result executor between closed own,
      (Executor.ofConfig opened.config).run clocked.host block (call.pass before.state) =
        (result, executor, between) ∧
      executor.close clocked.host none between = (closed, own, after.state) ∧
      report = (outcomeReport request.quiet
        (clocked.clock after.state - clocked.clock (call.pass before.state))
        (.ran result closed)).after lines ∧
      after.pool = ⟨before.pool.executors ++ [own],
        sharedAfter opened.config before.pool.executors.length closed⟩ ∧
      (own.closed = true ↔ closed = .ok ()) ∧
      (Drains clocked before call ↔ closed = .ok ())
  idle : (∀ request opened block lines, ¬Reaches call request opened block lines) →
    after = ⟨before.pool, call.pass before.state⟩

/-- Whether a call leaves the executor open on which it has run a block in a session.  The wait for
the shell has failed, and the call has failed with it.  The executor is as good as a new one, and if
its configuration allows sharing, whoever asks for an executor of that configuration next is handed
this one. -/
def LeavesOpen (clocked : ClockedHost State) (call : Call State) (before : Process State)
    (report : Report) (after : Process State) : Prop :=
  ∃ request opened block lines own shell state failure,
    Reaches call request opened block lines ∧
    opened.config.mode = .shell ∧
    clocked.host.endShell shell none state = (.error failure, after.state) ∧
    report.ending = .escaped (.host failure) ∧
    after.pool.executors = before.pool.executors ++ [own] ∧
    own.IsNew ∧
    (opened.config.reuseExecutor = true → ∀ state,
      after.pool.acquire clocked.host opened.config state =
        (.ok before.pool.executors.length, after.pool, state))

/-- A call that does not come to run a block makes no executor and leaves the host as it is. -/
theorem runIn_of_not_reaches
    (clocked : ClockedHost State)
    {call : Call State}
    (reachesNone : ∀ request opened block lines, ¬Reaches call request opened block lines)
    (state : State) :
    ∃ report, ∀ pool,
      runIn clocked call.environment call.arguments pool state = (report, pool, state) := by
  unfold runIn
  cases asks : Request.ofArguments? call.arguments with
  | none => exact ⟨_, fun pool => rfl⟩
  | some request =>
      cases request with
      | list subject => exact ⟨_, fun pool => rfl⟩
      | runners path => exact ⟨_, fun pool => rfl⟩
      | help => exact ⟨_, fun pool => rfl⟩
      | run request =>
          simp only [answerIn, runBlockIn]
          cases found : target call.environment request with
          | error refusal => exact ⟨_, fun pool => rfl⟩
          | ok target =>
              obtain ⟨opened, block⟩ := target
              dsimp only
              cases announced : Message.allLines
                  (if request.quiet then [] else [announcement opened block]) with
              | error failure => exact ⟨_, fun pool => rfl⟩
              | ok lines =>
                  exact absurd ⟨asks, found, announced⟩
                    (reachesNone request opened block lines)

/-- A call that comes to run a block reports what comes of it. -/
theorem runIn_eq
    (clocked : ClockedHost State)
    {call : Call State}
    {request : RunRequest}
    {opened : Opened}
    {block : Block}
    {lines : List String}
    (reaches : Reaches call request opened block lines)
    (pool : Pool)
    (state : State) :
    runIn clocked call.environment call.arguments pool state =
      let (outcome, pool, last) := performIn clocked.host opened.config block pool state
      ((outcomeReport request.quiet (clocked.clock last - clocked.clock state) outcome).after lines,
        pool, last) := by
  simp only [runIn, reaches.asks, answerIn, runBlockIn, reaches.found, reaches.announced]

/-- A call that comes to run a block does so on a new executor, which it tries to close. -/
theorem runIn_of_reaches
    (clocked : ClockedHost State)
    {call : Call State}
    {request : RunRequest}
    {opened : Opened}
    {block : Block}
    {lines : List String}
    (reaches : Reaches call request opened block lines)
    (state : State) :
    ∃ result executor between closed own last,
      (Executor.ofConfig opened.config).run clocked.host block state =
        (result, executor, between) ∧
      executor.close clocked.host none between = (closed, own, last) ∧
      (own.closed = true ↔ closed = .ok ()) ∧
      ∀ pool, pool.shared = none →
        (performIn clocked.host opened.config block pool state).1 = .ran result closed ∧
        runIn clocked call.environment call.arguments pool state =
          ((outcomeReport request.quiet (clocked.clock last - clocked.clock state)
              (.ran result closed)).after lines,
            ⟨pool.executors ++ [own],
              sharedAfter opened.config pool.executors.length closed⟩, last) := by
  rcases ran : (Executor.ofConfig opened.config).run clocked.host block state with
    ⟨result, executor, between⟩
  rcases closing : executor.close clocked.host none between with ⟨closed, own, last⟩
  have isOpen : executor.closed = false := by
    have kept := Executor.closed_run clocked.host block (Executor.ofConfig opened.config) state
    rw [ran] at kept
    exact kept.trans (Executor.closed_ofConfig opened.config)
  have marked :
      (executor.close clocked.host none between).2.1.closed = true ↔
        executor.closed = true ∨ (executor.close clocked.host none between).1 = .ok () :=
    Executor.close_closed_iff none executor between
  rw [closing, isOpen] at marked
  refine ⟨result, executor, between, closed, own, last, rfl, closing, by simpa using marked,
    fun pool unshared => ⟨?_, ?_⟩⟩
  · simp only [performIn_eq clocked.host opened.config block unshared, ran, closing]
  · simp only [runIn_eq clocked reaches, performIn_eq clocked.host opened.config block unshared,
      ran, closing]

/-- What a call comes to run is decided by the call. -/
theorem Reaches.unique
    {call : Call State}
    {request other : RunRequest}
    {opened otherOpened : Opened}
    {block otherBlock : Block}
    {lines otherLines : List String}
    (reaches : Reaches call request opened block lines)
    (reachesToo : Reaches call other otherOpened otherBlock otherLines) :
    other = request ∧ otherOpened = opened ∧ otherBlock = block := by
  cases reaches.asks.symm.trans reachesToo.asks
  cases reaches.found.symm.trans reachesToo.found
  exact ⟨rfl, rfl, rfl⟩

/-- As long as no executor is shared, a call stands apart. -/
theorem standsApart_call
    (clocked : ClockedHost State)
    {process : Process State}
    (unshared : process.pool.shared = none)
    (call : Call State) :
    StandsApart clocked call process (process.call clocked call).1
      (process.call clocked call).2 where
  alone := by
    rcases exists_reaches_or call with ⟨request, opened, block, lines, reaches⟩ | reachesNone
    · obtain ⟨result, executor, between, closed, own, last, -, -, -, ended⟩ :=
        runIn_of_reaches clocked reaches (call.pass process.state)
      simp only [run, Process.call, (ended process.pool unshared).2, (ended Pool.empty rfl).2]
    · obtain ⟨report, ended⟩ := runIn_of_not_reaches clocked reachesNone (call.pass process.state)
      simp only [run, Process.call, ended]
  ran := fun request opened block lines reaches => by
    obtain ⟨result, executor, between, closed, own, last, ran, closing, marked, ended⟩ :=
      runIn_of_reaches clocked reaches (call.pass process.state)
    obtain ⟨outcome, ended⟩ := ended process.pool unshared
    have drains : Drains clocked process call ↔ closed = .ok () := by
      constructor
      · intro drains
        obtain ⟨result', drained⟩ := drains request opened block lines reaches
        cases outcome.symm.trans drained
        rfl
      · rintro rfl request' opened' block' lines' reachesToo
        obtain ⟨rfl, rfl, rfl⟩ := reaches.unique reachesToo
        exact ⟨result, outcome⟩
    simp only [Process.call, ended]
    exact ⟨result, executor, between, closed, own, ran, closing, rfl, rfl, marked, drains⟩
  idle := fun reachesNone => by
    obtain ⟨report, ended⟩ := runIn_of_not_reaches clocked reachesNone (call.pass process.state)
    simp only [Process.call, ended]

namespace StandsApart

variable {call : Call State} {before after : Process State} {report : Report}

/-- A call that stands apart leaves a process settled exactly if its executor is closed. -/
theorem settled_iff
    (apart : StandsApart clocked call before report after)
    (unshared : before.pool.shared = none) :
    Settled before after ↔ Drains clocked before call := by
  rcases exists_reaches_or call with ⟨request, opened, block, lines, reaches⟩ | reachesNone
  · obtain ⟨result, executor, between, closed, own, -, -, -, pool, marked, drains⟩ :=
      apart.ran _ _ _ _ reaches
    rw [drains]
    constructor
    · intro settled
      obtain ⟨added, executors, allClosed⟩ := settled.closed
      rw [pool] at executors
      cases List.append_cancel_left executors
      exact marked.mp (allClosed own (List.mem_singleton_self own))
    · rintro rfl
      refine ⟨by rw [pool]; rfl, [own], by rw [pool], ?_⟩
      simpa using marked.mpr rfl
  · rw [apart.idle reachesNone]
    refine iff_of_true ⟨unshared, [], (List.append_nil _).symm, by simp⟩ ?_
    exact fun request opened block lines reaches => absurd reaches (reachesNone _ _ _ _)

/-- A call that stands apart keeps all executors that were made before. -/
theorem exists_append
    (apart : StandsApart clocked call before report after) :
    ∃ more, after.pool.executors = before.pool.executors ++ more := by
  rcases exists_reaches_or call with ⟨request, opened, block, lines, reaches⟩ | reachesNone
  · obtain ⟨result, executor, between, closed, own, -, -, -, pool, -⟩ := apart.ran _ _ _ _ reaches
    exact ⟨[own], by rw [pool]⟩
  · exact ⟨[], by rw [apart.idle reachesNone, List.append_nil]⟩

/-- A call that stands apart and does not have its executor closed has failed to wait for a
shell. -/
theorem leavesOpen
    (apart : StandsApart clocked call before report after)
    (stuck : ¬Drains clocked before call) :
    LeavesOpen clocked call before report after := by
  rcases exists_reaches_or call with ⟨request, opened, block, lines, reaches⟩ | reachesNone
  swap
  · exact absurd (fun _ _ _ _ reaches => absurd reaches (reachesNone _ _ _ _)) stuck
  obtain ⟨result, executor, between, closed, own, ran, closing, reported, pool, -, drains⟩ :=
    apart.ran _ _ _ _ reaches
  cases closed with
  | ok _ => exact absurd (drains.mpr rfl) stuck
  | error failure =>
      obtain ⟨isNew, isOf, isShell, shell, ended⟩ := Executor.isNew_of_close ran closing
      have escapes : report.ending = .escaped (.host failure) := by
        rw [reported]
        cases result <;> rfl
      refine ⟨request, opened, block, lines, own, shell, between, failure, reaches, isShell, ended,
        escapes, by rw [pool], isNew, fun shares state => ?_⟩
      have here : after.pool.executor? before.pool.executors.length = some own := by
        simp [pool, Pool.executor?]
      have isShared : after.pool.shared = some before.pool.executors.length := by
        simp [pool, sharedAfter, shares]
      exact Pool.acquire_of_isNew shares isShared here isNew isOf state

theorem drains_of_waits
    (apart : StandsApart clocked call before report after)
    (waits : clocked.host.Waits) :
    Drains clocked before call := by
  by_contra stuck
  obtain ⟨_, _, _, _, _, shell, state, failure, -, -, ended, -⟩ := apart.leavesOpen stuck
  have waited := waits shell state
  rw [ended] at waited
  cases waited

end StandsApart

theorem callAll_concat
    (clocked : ClockedHost State)
    (start : Process State)
    (past : List (Call State))
    (call : Call State) :
    start.callAll clocked (past ++ [call]) = ((start.callAll clocked past).call clocked call).2 := by
  rw [callAll, List.foldl_append]
  rfl

section

variable {start : Process State} {calls : List (Call State)}

/-- A process that shares no executor stays settled as long as each call in a settled one has its
executor closed. -/
theorem settled_of_drains
    (unshared : start.pool.shared = none)
    (drains : ∀ past call, past ++ [call] <+: calls → Settled start (start.callAll clocked past) →
      Drains clocked (start.callAll clocked past) call)
    {past : List (Call State)}
    (happened : past <+: calls) :
    Settled start (start.callAll clocked past) := by
  refine of_prefix (motive := fun past => Settled start (start.callAll clocked past))
    (.refl unshared) (fun past call happened settled => ?_) happened
  have apart := standsApart_call clocked settled.unshared call
  rw [callAll_concat]
  exact settled.trans ((apart.settled_iff settled.unshared).mpr (drains past call happened settled))

/-- A process that shares no executor is settled after each of some calls exactly if each of them
has its executor closed. -/
theorem allDrain_iff
    (unshared : start.pool.shared = none) :
    AllDrain clocked start calls ↔
      ∀ past, past <+: calls → Settled start (start.callAll clocked past) := by
  constructor
  · intro drain past happened
    exact settled_of_drains unshared (fun past call happened _ => drain past call happened) happened
  · intro settled past call happened
    have before := settled past ((List.prefix_append past [call]).trans happened)
    have after := settled (past ++ [call]) happened
    have apart := standsApart_call clocked before.unshared call
    obtain ⟨more, grows⟩ := apart.exists_append
    rw [callAll_concat] at after
    exact (apart.settled_iff before.unshared).mp (before.of_append after grows)

theorem allDrain_of_waits
    (unshared : start.pool.shared = none)
    (waits : clocked.host.Waits) :
    AllDrain clocked start calls :=
  (allDrain_iff unshared).mpr fun _ happened =>
    settled_of_drains unshared
      (fun _ call _ settled =>
        (standsApart_call clocked settled.unshared call).drains_of_waits waits)
      happened

end

/-- However commands are called one after the other in a process that shares no executor at
first, each of them stands apart as long as all before it had their executors closed, and one that
does not leaves its executor open because it could not wait for a shell.  After each of them no
executor is shared and all that were made are closed exactly if all have their executors closed,
and so they have where every shell can be waited for. -/
theorem standsApart_callAll
    (clocked : ClockedHost State)
    (start : Process State)
    (unshared : start.pool.shared = none)
    (calls : List (Call State)) :
    (AllDrain clocked start calls → ∀ call,
      StandsApart clocked call (start.callAll clocked calls)
        ((start.callAll clocked calls).call clocked call).1
        ((start.callAll clocked calls).call clocked call).2 ∧
      (¬Drains clocked (start.callAll clocked calls) call →
        LeavesOpen clocked call (start.callAll clocked calls)
          ((start.callAll clocked calls).call clocked call).1
          ((start.callAll clocked calls).call clocked call).2)) ∧
    (AllDrain clocked start calls ↔
      ∀ past, past <+: calls → Settled start (start.callAll clocked past)) ∧
    (clocked.host.Waits → AllDrain clocked start calls) := by
  refine ⟨fun drain call => ?_, allDrain_iff unshared, allDrain_of_waits unshared⟩
  have settled := (allDrain_iff unshared).mp drain calls (List.prefix_refl calls)
  have apart := standsApart_call clocked settled.unshared call
  exact ⟨apart, apart.leavesOpen⟩

/-! ## A command that is called twice -/

/-- A call of the command that runs the first section of the shell script. -/
def scriptCall : Call Machine :=
  ⟨id, scriptEnvironment, scriptArguments⟩

/-- The machine with its clock. -/
def clockedMachine : ClockedHost Machine :=
  ⟨Machine.host, fun machine => machine.world.clock⟩

/-- A process in which no executor was made. -/
def newProcess : Process Machine :=
  ⟨Pool.empty, .withWorkers []⟩

/-- The process after the first call of that command. -/
def calledOnce : Process Machine :=
  newProcess.callAll clockedMachine [scriptCall]

/-- The statement on calls, for the second call of that command, which comes to run a block. -/
theorem standsApart_callAll_script :
    newProcess.pool.shared = none ∧
    AllDrain clockedMachine newProcess [scriptCall] ∧
    Reaches scriptCall scriptRequest scriptOpened scriptBlock [] ∧
    StandsApart clockedMachine scriptCall calledOnce (calledOnce.call clockedMachine scriptCall).1
      (calledOnce.call clockedMachine scriptCall).2 ∧
    Settled newProcess calledOnce := by
  have waits : clockedMachine.host.Waits := Machine.tracks.waits
  obtain ⟨apart, settled, drain⟩ :=
    standsApart_callAll clockedMachine newProcess rfl [scriptCall]
  exact ⟨rfl, drain waits, ⟨ofArguments?_script, target_script, rfl⟩, (apart (drain waits) _).1,
    settled.mp (drain waits) _ (List.prefix_refl _)⟩

/-! ## A wait that is interrupted -/

/-- A directory with the shell script, and with a configuration that runs blocks in a session. -/
def sessionEnvironment : Environment where
  tree :=
    ⟨[(["a.sh"], .file (Text.encodeUtf8 "ls\n\n\npwd".toList) .file),
      ([".blockrun.yaml"], .file (Text.encodeUtf8 "executor_mode: shell".toList) .file)]⟩
  workingDirectory := []
  bindings := []

/-- The configuration as it is read. -/
def sessionConfig : Config where
  mode := .shell

/-- The shell script as it is opened. -/
def sessionOpened : Opened :=
  ⟨sessionConfig, scriptDocument, scriptDocument.blocks sessionConfig.registry.contains⟩

/-- A call of the command that runs the first section of the shell script in a session. -/
def sessionCall : Call Nat :=
  ⟨id, sessionEnvironment, scriptArguments⟩

/-- A host on which shells run on, for the user interrupts every wait for one.  Its state counts the
shells. -/
def impatientHost : Host Nat where
  createFile := fun _ _ count => (.ok "/tmp/a", count)
  removeFile := fun _ count => count
  runCommand := fun _ _ count => (.ok 0, count)
  startShell := fun _ count => (.ok count, count + 1)
  isRunning := fun _ count => (true, count)
  writeShell := fun _ _ count => (.ok (), count)
  endShell := fun _ _ count => (.error .interrupted, count)

/-- A process on that host after some calls of the command. -/
def impatientProcess (calls : List (Call Nat)) : Process Nat :=
  Process.callAll ⟨impatientHost, fun _ => 0⟩ ⟨.empty, 0⟩ calls

theorem loadConfig_session : loadConfig sessionEnvironment none = .ok sessionConfig := by
  have seen : sessionEnvironment.node? (Config.localPath sessionEnvironment) =
      .ok (some (.file (Text.encodeUtf8 "executor_mode: shell".toList) .file)) :=
    Environment.node?_root (by decide) rfl rfl
  have told : Config.candidate sessionEnvironment none =
      .ok (Config.localPath sessionEnvironment) := rfl
  have read : Config.ofContent (Config.localPath sessionEnvironment)
      (Text.encodeUtf8 "executor_mode: shell".toList) = .ok sessionConfig := by
    decide +kernel
  exact loadConfig_of_load rfl ((Config.load_of_file told seen).trans read)

theorem reaches_session : Reaches sessionCall scriptRequest sessionOpened scriptBlock [] where
  asks := ofArguments?_script
  found := by
    have opens : openSubject sessionEnvironment scriptRequest.subject = .ok sessionOpened :=
      openSubject_of_loads loadConfig_session (loadDocument_script rfl rfl none)
    have chosen := target_eq opens namesOne_script scriptRequest.quiet
    have selected : selectBlock sessionOpened.blocks scriptRequest.line scriptRequest.index =
        .ok scriptBlock := by
      decide
    rw [selected] at chosen
    exact chosen
  announced := rfl

/-- Calls need not leave a process settled, nor run their blocks on executors of their own.  The
first of two calls whose waits the user interrupts leaves its executor open and shared, and the
second runs its block on it and makes none. -/
theorem not_settled_callAll_impatient :
    Reaches sessionCall scriptRequest sessionOpened scriptBlock [] ∧
    (impatientProcess []).pool.shared = none ∧
    (impatientProcess [sessionCall]).pool.shared = some 0 ∧
    (impatientProcess [sessionCall]).pool.executors.map Executor.closed = [false] ∧
    (impatientProcess [sessionCall, sessionCall]).pool.executors.map Executor.closed = [false] ∧
    (impatientProcess [sessionCall, sessionCall]).state = 2 := by
  have next (process : Process Nat) :
      (process.call ⟨impatientHost, fun _ => 0⟩ sessionCall).2 =
        let (_, pool, state) :=
          performIn impatientHost sessionConfig scriptBlock process.pool process.state
        ⟨pool, state⟩ := by
    rw [Process.call, runIn_eq _ reaches_session]
    rfl
  simp only [impatientProcess, callAll, List.foldl_cons, List.foldl_nil, next]
  exact ⟨reaches_session, rfl, rfl, rfl, rfl, rfl⟩

end Process
end CommandLine
end Snippets
