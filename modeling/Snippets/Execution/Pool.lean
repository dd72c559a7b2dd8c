import Snippets.Execution.Executor

/-!
# The executors of a process

A pool holds all executors that were made, each under its number, and knows which of
them is shared.  Whoever asks for an executor with a configuration that allows sharing
gets the shared one as long as it is open and was made from an equal configuration;
otherwise the shared one is closed and a new one takes its place.
-/

namespace Snippets

/-- The executors of a process. -/
structure Pool where
  /-- The executors in the order in which they were made. -/
  executors : List Executor
  /-- The number of the shared one, if there is one. -/
  shared : Option Nat

namespace Pool

variable {State : Type}

/-- No executor has been made. -/
def empty : Pool :=
  ⟨[], none⟩

/-- The executor of a number. -/
def executor? (pool : Pool) (number : Nat) : Option Executor :=
  pool.executors[number]?

/-- Adds an executor and answers its number. -/
def add (executor : Executor) (pool : Pool) : Nat × Pool :=
  (pool.executors.length, { pool with executors := pool.executors ++ [executor] })

/-- Puts an executor back after a step. -/
def put (number : Nat) (executor : Executor) (pool : Pool) : Pool :=
  { pool with executors := pool.executors.set number executor }

/-- Closes the executor of a number. -/
def close (host : Host State) (number : Nat) (limit : Option Seconds) (pool : Pool)
    (state : State) : Except HostFailure Unit × Pool × State :=
  match pool.executor? number with
  | none => (.ok (), pool, state)
  | some executor =>
      let (closed, executor, state) := executor.close host limit state
      (closed, pool.put number executor, state)

/-- Whether the executor of a number is closed.  One that was never made is. -/
def isClosed (host : Host State) (number : Nat) (pool : Pool) (state : State) :
    Bool × State :=
  match pool.executor? number with
  | none => (true, state)
  | some executor => executor.isClosed host state

/-- Runs a block on the executor of a number. -/
def run (host : Host State) (number : Nat) (block : Block) (pool : Pool) (state : State) :
    Except RunFailure RunResult × Pool × State :=
  match pool.executor? number with
  | none => (.error .closed, pool, state)
  | some executor =>
      let (result, executor, state) := executor.run host block state
      (result, pool.put number executor, state)

/-- Makes an executor that is shared from now on. -/
def share (config : Config) (pool : Pool) : Nat × Pool :=
  let (number, pool) := pool.add (Executor.ofConfig config)
  (number, { pool with shared := some number })

/-- Closes an executor unless it is closed already. -/
def closeIfOpen (host : Host State) (number : Nat) (pool : Pool) (state : State) :
    Except HostFailure Unit × Pool × State :=
  match pool.isClosed host number state with
  | (true, state) => (.ok (), pool, state)
  | (false, state) => pool.close host number (some Session.defaultLimit) state

/-- The number of an executor for a configuration. -/
def acquire (host : Host State) (config : Config) (pool : Pool) (state : State) :
    Except HostFailure Nat × Pool × State :=
  if !config.reuseExecutor then
    let (number, pool) := pool.add (Executor.ofConfig config)
    (.ok number, pool, state)
  else
    match pool.shared with
    | none =>
        let (number, pool) := pool.share config
        (.ok number, pool, state)
    | some shared =>
        let (closed, state) := pool.isClosed host shared state
        let isEqual := (pool.executor? shared).bind Executor.config == some config
        if !closed && isEqual then (.ok shared, pool, state)
        else
          match pool.closeIfOpen host shared state with
          | (.error failure, pool, state) => (.error failure, pool, state)
          | (.ok (), pool, state) =>
              let (number, pool) := pool.share config
              (.ok number, pool, state)

/-- Closes the shared executor, if there is one, and forgets that it was shared. -/
def closeShared (host : Host State) (limit : Option Seconds) (pool : Pool) (state : State) :
    Except HostFailure Unit × Pool × State :=
  match pool.shared with
  | none => (.ok (), pool, state)
  | some shared =>
      match pool.close host shared limit state with
      | (.ok (), pool, state) => (.ok (), { pool with shared := none }, state)
      | (.error failure, pool, state) => (.error failure, pool, state)

end Pool
end Snippets
