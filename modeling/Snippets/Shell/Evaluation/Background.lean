import Snippets.Shell.Evaluation.Copies

/-!
# Commands in the background

A command in the background runs at once, apart from the others.  What it does outside is
put off until its time comes.
-/

namespace Snippets
namespace Shell
namespace Evaluation

/-- The microseconds after which a command in the background counts as endless. -/
def jobLimit : Nat := 10000000

/-- The microseconds by which such a command may outlast the time of the shell. -/
def jobMargin : Nat := 5000000

/-- The time at which an endless command ends. -/
def farFuture : Nat := Nat.pow 10 24

/-- The descriptors that redirections change. -/
def changedDescriptors : List Redirection → List Nat
  | [] => []
  | redirection :: rest =>
      let number := match redirection.place with
        | .number number => [number]
        | .named _ => []
      let more := if redirection.direction = .outputs ∨ redirection.direction = .outputsAppend then
          [1, 2] else []
      number ++ more ++ changedDescriptors rest

/-- The descriptors that a command in the background changes for itself. -/
def ownDescriptors : Command → List Nat
  | .simple _ _ _ redirections => changedDescriptors redirections
  | .redirected _ redirections => changedDescriptors redirections
  | _ => []

/-- The buffers that a command in the background keeps open. -/
def heldBy (command : Command) (state : State) : List Nat :=
  (((ownDescriptors command).foldl (fun state number => state.closeStream number) state).closeStream
    0).heldBuffers

/-- The world in which a command in the background runs. -/
def apart (world : World) : World :=
  let first := world.nextProcess
  let limit := match world.deadline with
    | some deadline => deadline + jobMargin
    | none => world.clock + jobLimit
  { world with
    outside := some ⟨world.buffers.size, none, first, world.tree, []⟩
    deadline := some limit
    limits := [] }

/-- The effects of a command that has run apart, and the world to which they come. -/
def putOff (process : Nat) (held : List Nat) (before : World) (status : Nat) (after : World) :
    World :=
  let isEndless := after.isLate
  let after := after.showTree
  let done := (after.outside.map Outside.done).getD []
  let others := before.later.map Effect.process
  let isNew := fun effect : Effect => !others.contains effect.process
  let ending := if isEndless then farFuture else after.clock
  let effects := (done.reverse ++ after.later).filter isNew ++
    [⟨ending, process, .finish status held⟩]
  let world := { after with
    tree := before.tree
    clock := before.clock
    deadline := before.deadline
    outside := before.outside
    limits := before.limits
    later := before.later
    ended := before.ended
    signals := before.signals
    current := before.current }
  world.schedule effects

/-- The number of the next job: one more than that of the last one, or the least one that no
other job has. -/
def nextNumber (known : List Job) (state : State) : Nat :=
  let used := known.map Job.number
  if state.isBash then used.foldl max 0 + 1
  else
    let free := (List.range used.length).find? fun index : Nat => !used.contains (index + 1)
    free.getD used.length + 1

/-- Starts a command in the background. -/
def background (go : Go) (command : Command) (state : State) : Result :=
  let state := state.forgetTold
  let known := if state.isBash ∧ state.has "command" then
      state.jobs.filter fun job => state.isRunning job.process
    else state.jobs
  let before := state.world
  let process := before.nextProcess
  let inner := copyOf { state with
    world := apart before, jobs := if command.isSimple then state.jobs else [] }
  let (flow, after) := finish go
    (go (.command ⟨false, true⟩ command) (inner.setStream 0 .nothing))
  let status := match flow with
    | .ended signal => 128 + signal
    | _ => after.status
  let world := putOff process (heldBy command state) before status after.world
  let running := known.filter fun job => state.isRunning job.process
  let text := Printing.command false Printing.deepest 0 command
  let job : Job :=
    ⟨nextNumber known state, process, text, (running.getLast?).map Job.number, false⟩
  let state := { state with
    world := world
    nextIdentity := after.nextIdentity
    jobs := known ++ [job]
    lastJob := some process
    children := process :: state.children }
  (.next, step (state.withStatus 0))

end Evaluation
end Shell
end Snippets
