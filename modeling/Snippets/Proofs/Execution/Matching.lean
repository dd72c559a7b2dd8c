import Snippets.Proofs.Detection.Redetection
import Snippets.Proofs.Execution.Sharing

/-!
# Blocks and the executors that run them

Blocks are found with the runners of a configuration and run with those of an executor.  The
main statement says that these are the same runners: whoever has found a block with a
configuration and asks for an executor with it, at any moment of any history, gets one that runs
the block with the runner under which it was found, even if the executor was made long before.
-/

namespace Snippets

/-- Whether a failure means that a block was not even tried. -/
inductive RunFailure.IsRefusal : RunFailure → Prop where
  /-- The executor is closed. -/
  | closed : IsRefusal .closed
  /-- There is no runner for the language. -/
  | noRunner (language : String) (available : List String) :
      IsRefusal (.noRunner language available)

namespace Executor

variable {State : Type} {host : Host State} {status : State → Nat → ShellStatus}

/-- Runs a block with a runner that has been chosen for it. -/
def runWith (host : Host State) (runner : Runner) (block : Block) (executor : Executor)
    (state : State) : Except RunFailure RunResult × Executor × State :=
  match executor.engine with
  | .file =>
      let (result, state) := runFile host executor.limit runner block.code state
      (result, executor, state)
  | .shell session =>
      let (result, session, state) := runShell host runner block session state
      (result, { executor with engine := .shell session }, state)

/-- An open executor with a runner for a block runs the block with it. -/
theorem run_eq_runWith
    {executor : Executor}
    {block : Block}
    {runner : Runner}
    {state : State}
    (isOpen : (executor.isClosed host state).1 = false)
    (found : executor.runners.get? block.language = some runner) :
    executor.run host block state =
      executor.runWith host runner block (executor.isClosed host state).2 := by
  unfold run
  rcases asked : executor.isClosed host state with ⟨answer, after⟩
  rw [asked] at isOpen
  subst isOpen
  simp only [found]
  rfl

theorem not_isRefusal_of_resultOf
    {limit : Option Seconds}
    {command : String}
    {outcome : Except CommandFailure Int}
    {failure : RunFailure}
    (failed : resultOf limit command outcome = .error failure) :
    ¬failure.IsRefusal := by
  match outcome with
  | .ok status => cases failed
  | .error .timedOut =>
      cases failed
      exact nofun
  | .error (.notStarted reason) =>
      cases failed
      exact nofun
  | .error (.other failure) =>
      cases failed
      exact nofun

theorem not_isRefusal_of_sendText
    {text : String}
    {session : Session}
    {state : State}
    {failure : RunFailure}
    (failed : (sendText host text session state).1 = .error failure) :
    ¬failure.IsRefusal := by
  unfold sendText at failed
  rcases sent : session.send host text state with ⟨answer, session', after⟩
  rw [sent] at failed
  match answer with
  | .ok () => cases failed
  | .error (.shellMissing name) =>
      cases failed
      exact nofun
  | .error (.shellGone reason) =>
      cases failed
      exact nofun
  | .error (.other failure) =>
      cases failed
      exact nofun

theorem not_isRefusal_of_runFile
    {limit : Option Seconds}
    {runner : Runner}
    {code : String}
    {state : State}
    {failure : RunFailure}
    (failed : (runFile host limit runner code state).1 = .error failure) :
    ¬failure.IsRefusal := by
  unfold runFile at failed
  split at failed
  · cases failed
    exact nofun
  · exact not_isRefusal_of_resultOf failed

theorem not_isRefusal_of_runShell
    {runner : Runner}
    {block : Block}
    {session : Session}
    {state : State}
    {failure : RunFailure}
    (failed : (runShell host runner block session state).1 = .error failure) :
    ¬failure.IsRefusal := by
  unfold runShell at failed
  split at failed
  · exact not_isRefusal_of_sendText failed
  · split at failed
    · cases failed
      exact nofun
    · rename_i path after _
      have sends (same : (sendText host (sessionCommand runner path) session after).1 =
          .error failure) := not_isRefusal_of_sendText same
      rcases sent : sendText host (sessionCommand runner path) session after with
        ⟨result, session', last⟩
      rw [sent] at failed sends
      split at failed
      · cases failed
        exact nofun
      · rename_i answered
        cases answered
        exact sends failed
      · cases failed

/-- A block that is run with a runner is not refused. -/
theorem not_isRefusal_of_runWith
    {executor : Executor}
    {block : Block}
    {runner : Runner}
    {state : State}
    {failure : RunFailure}
    (failed : (executor.runWith host runner block state).1 = .error failure) :
    ¬failure.IsRefusal := by
  unfold runWith at failed
  split at failed
  · exact not_isRefusal_of_runFile failed
  · exact not_isRefusal_of_runShell failed

/-- An executor that is open stays so as long as no shell exits. -/
theorem isClosed_of_stays
    (tracks : host.Tracks status)
    {executor : Executor}
    {before after : State}
    (isOpen : (executor.isClosed host before).1 = false)
    (stays : ∀ shell, status before shell = .running → status after shell = .running) :
    (executor.isClosed host after).1 = false := by
  rw [isClosed_answer tracks, Bool.or_eq_false_iff] at isOpen ⊢
  obtain ⟨notClosed, holdsOpen⟩ := isOpen
  refine ⟨notClosed, ?_⟩
  cases held : executor.process? with
  | none => rfl
  | some shell =>
      have runs : status before shell = .running := by simpa [held] using holdsOpen
      simpa using stays shell runs

end Executor

namespace Moment

variable {State : Type} {host : Host State} {status : State → Nat → ShellStatus}

/-- Whether a call with a configuration gets an executor that is next to run a block with a
runner, and that does not refuse it, unless a shell exits meanwhile. -/
def RunsWith
    (host : Host State)
    (status : State → Nat → ShellStatus)
    (moment : Moment State)
    (config : Config)
    (block : Block)
    (runner : Runner) : Prop :=
  ∃ number executor pool state,
    moment.pool.acquire host config moment.state = (.ok number, pool, state) ∧
    pool.executor? number = some executor ∧
    ∀ later, (∀ shell, status state shell = .running → status later shell = .running) →
      executor.run host block later =
        executor.runWith host runner block (executor.isClosed host later).2 ∧
      (pool.run host number block later).1 = (executor.run host block later).1 ∧
      ∀ failure, (pool.run host number block later).1 = .error failure → ¬failure.IsRefusal

/-- A call gets an open executor with all that its configuration asks for. -/
theorem Consistent.acquires
    (tracks : host.Tracks status)
    {moment : Moment State}
    (consistent : moment.Consistent status)
    (config : Config) :
    ∃ number executor pool state,
      moment.pool.acquire host config moment.state = (.ok number, pool, state) ∧
      pool.executor? number = some executor ∧
      (executor.isClosed host state).1 = false ∧
      executor.IsOf config := by
  cases shares : config.reuseExecutor with
  | true =>
      obtain ⟨number, executor, pool, state, acquired, found, isOpen, isOf, -⟩ :=
        consistent.shares tracks shares
      exact ⟨number, executor, pool, state, acquired, found, isOpen, isOf⟩
  | false =>
      exact ⟨_, _, _, _, Pool.acquire_apart shares moment.pool moment.state,
        Pool.executor?_add_self _ moment.pool, Executor.isClosed_ofConfig tracks config _,
        Executor.isOf_ofConfig config⟩

/-- At every moment of every history, a block that was found with a configuration runs with the
runner that the configuration has for it, on the executor that a call with the configuration
gets. -/
theorem runs_as_found
    (tracks : host.Tracks status)
    (start : State)
    (history : List (Action State))
    (possible : IsPossible host status start history)
    (config : Config)
    (document : Document)
    {block : Block}
    (present : block ∈ document.blocks config.registry.contains) :
    ∃ runner, config.registry.get? block.language = some runner ∧
      (after host start history).RunsWith host status config block runner := by
  obtain ⟨runner, known⟩ := Option.isSome_iff_exists.mp (Document.supported_of_mem_blocks present)
  refine ⟨runner, known, ?_⟩
  have consistent := consistent_after tracks possible (List.prefix_refl history)
  obtain ⟨number, executor, pool, state, acquired, found, isOpen, isOf⟩ :=
    consistent.acquires tracks config
  refine ⟨number, executor, pool, state, acquired, found, fun later stays => ?_⟩
  have openLater := Executor.isClosed_of_stays tracks isOpen stays
  have ran := Executor.run_eq_runWith openLater (isOf.runners ▸ known)
  have answers : (pool.run host number block later).1 = (executor.run host block later).1 := by
    simp only [Pool.run, found]
  refine ⟨ran, answers, fun failure failed => ?_⟩
  rw [answers, ran] at failed
  exact Executor.not_isRefusal_of_runWith failed

/-- A document with a block that ends the shell. -/
def exitDocument : Document :=
  ⟨[⟨"```sh"⟩, ⟨"exit"⟩, ⟨"```"⟩], Language.markdown, .tagged⟩

/-- The statement on runners, for that document and an executor that was made earlier and has
taken the place of another. -/
theorem runs_as_found_replacing :
    Machine.host.Tracks Machine.shellStatus ∧
    IsPossible Machine.host Machine.shellStatus (.withWorkers [])
      (replacing ++ [.close 0 (some longLimit)]) ∧
    exitBlock ∈ exitDocument.blocks shellConfig.registry.contains ∧
    ∃ runner, shellConfig.registry.get? exitBlock.language = some runner ∧
      (after Machine.host (.withWorkers []) (replacing ++ [.close 0 (some longLimit)])).RunsWith
        Machine.host Machine.shellStatus shellConfig exitBlock runner := by
  have present : exitBlock ∈ exitDocument.blocks shellConfig.registry.contains := by
    decide
  exact ⟨Machine.tracks, isPossible_replacing, present,
    runs_as_found Machine.tracks _ _ isPossible_replacing shellConfig exitDocument present⟩

end Moment
end Snippets
