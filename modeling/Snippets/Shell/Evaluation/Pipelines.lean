import Snippets.Shell.Evaluation.Background

/-!
# Pipelines

The commands of a pipeline run at the same time.  Each of them but the first one reads what the
one before it writes.  A command that writes after its reader has gone is ended.
-/

namespace Snippets
namespace Shell
namespace Evaluation

/-- The signal that ends a command whose reader has gone. -/
def brokenSignal : Nat := 13

/-- The numbers of octets that a command may have passed on, of which the next one is tried when
all of them were read and there would have been more. -/
def passLimits : List Nat := [150000, 1048576, 16777216]

/-- A command of a pipeline that has run. -/
structure Member where
  /-- The number of its process. -/
  process : Nat
  /-- The buffer that it has written into. -/
  buffer : Nat
  /-- Its status. -/
  status : Nat
  /-- Whether it has been stopped because it would have written too much. -/
  isCut : Bool

/-- The descriptors of a member of a pipeline: it reads from a buffer unless it is the first one,
and writes into one unless it is the last one. -/
def connect (input output : Option Nat) (state : State) : State :=
  let state := match input with
    | some buffer => state.setStream 0 (.buffer buffer)
    | none => state
  match output with
  | some buffer => state.setStream 1 (.buffer buffer)
  | none => state

/-- A copy of a shell for a member of a pipeline.  A simple command is no copy for its own
words. -/
def copyForMember (command : Command) (state : State) : State :=
  let copy := copyOf state
  if command.isSimple then { copy with depth := state.depth } else { copy with jobs := [] }

/-- Ends a member whose reader has gone at a time, when it writes the next time. -/
def cut (member : Member) (time : Nat) (world : World) : Member × World :=
  let isWrite := fun effect : Effect =>
    effect.process == member.process && decide (time < effect.time) &&
      (match effect.action with
        | .write buffer _ => buffer == member.buffer
        | _ => false)
  match world.later.find? isWrite with
  | none => (member, world)
  | some death =>
      let kept := world.later.filter fun effect =>
        effect.process != member.process || effect.time < death.time
      let ending : Effect := ⟨death.time, member.process, .finish (128 + brokenSignal) []⟩
      ({ member with status := 128 + brokenSignal },
        { world with later := kept }.schedule [ending])

/-- Ends the members whose readers have gone, from the last one to the first one.  The answer has
the members in order. -/
def cutAll : List Member → Nat → World → List Member × World
  | [], _, world => ([], world)
  | member :: before, time, world =>
      let (member, world) := cut member time world
      let ending := (world.endOf? member.process).getD time
      let (members, world) := cutAll before (max time ending) world
      (members ++ [member], world)

/-- Runs a member of a pipeline that is not the last one.  What it has done is put off if that
took some time. -/
def runMember (go : Go) (limit : Nat) (command : Command) (input : Option Nat) (state : State) :
    Member × State :=
  let (buffer, world) := state.world.addBuffer []
  let before := world
  let process := world.nextProcess
  let connected := connect input (some buffer) state
  let reads := match connected.stream? 0 with
    | some (.buffer number) => some number
    | _ => none
  let alone : World := { world with
    outside := some ⟨world.buffers.size, reads, process, world.tree, []⟩
    limits := (buffer, limit) :: world.limits }
  let copy := copyForMember command { connected with world := alone }
  let result := finish go (go (.command ⟨false, true⟩ command) copy)
  let wasLate := result.2.world.isLate
  let (_, after) := afterCopy state result
  let after := if state.isBash then { after with signal := none } else tellEnd after
  -- The files are those that the next member finds already.
  let done := ((after.world.outside.map Outside.done).getD []).filter fun effect : Effect =>
    match effect.action with
    | .change _ => false
    | _ => true
  let ending : Effect :=
    ⟨if wasLate then farFuture else after.world.clock, process, .finish after.status [buffer]⟩
  let member : Member :=
    ⟨process, buffer, after.status, after.world.limits.lookup buffer = some 0⟩
  let world := { after.world with
    clock := before.clock, outside := before.outside, limits := before.limits }
  (member, { state with
    world := world.schedule (done.reverse ++ [ending])
    nextIdentity := after.nextIdentity })

/-- Runs the members of a pipeline but the last one, after those that have run, the latest
first. -/
def runMembers (go : Go) (limit begun : Nat) :
    List Command → List Member → State → List Member × State
  | [], done, state => (done, state)
  | command :: rest, done, state =>
      let (member, state) := runMember go limit command (done.head?.map Member.buffer) state
      let state := state.modifyWorld fun world => { world with clock := begun }
      runMembers go limit begun rest (member :: done) state

/-- Whether the last member of a pipeline runs in the shell itself. -/
def runsLastHere (state : State) : Bool :=
  state.isBash && state.has "lastpipe" && !state.has "monitor"

/-- Runs a pipeline whose members pass on a limited number of octets.  The answer says whether that
was too few. -/
def runLimited (go : Go) (position : Position) (limit : Nat) (first : List Command)
    (last : Command) (state : State) : Bool × Result :=
  let begun := state.world.clock
  let (members, after) := runMembers go limit begun first [] state
  let input := members.head?.map Member.buffer
  let (flow, after) :=
    if runsLastHere state then
      let (flow, after) := go (.command position.inner last) (connect input none after)
      (flow, { after with descriptors := state.descriptors })
    else
      let copy := connect input none (copyForMember last after)
      let (flow, ended) := afterCopy after
        (finish go (go (.command { position with isLast := true } last) copy))
      (flow, tellEnd ended)
  let (members, world) := cutAll members after.world.clock after.world
  let isShort := members.any fun member => member.isCut && (world.buffer member.buffer).isEmpty
  let ends := members.filterMap fun member => world.endOf? member.process
  let world := world.waitUntil (ends.foldl max 0)
  let statuses := members.map Member.status ++ [after.status]
  let failed := (statuses.reverse.find? fun status => status != 0).getD 0
  let status := if state.has "pipefail" then failed else after.status
  (isShort, (flow, { after with world := world, statuses := statuses, status := status }))

/-- Runs a pipeline with the first of some limits that is enough. -/
def runWithin (go : Go) (position : Position) (first : List Command) (last : Command)
    (state : State) : List Nat → Result
  | [] => (.next, state)
  | [limit] => (runLimited go position limit first last state).2
  | limit :: rest =>
      match runLimited go position limit first last state with
      | (false, result) => result
      | (true, _) => runWithin go position first last state rest

/-- Runs commands that pass their output on. -/
def runPipeline (go : Go) (position : Position) (commands : List Command) (state : State) :
    Result :=
  match commands.reverse with
  | [] => (.next, state)
  | [command] => go (.command position command) state
  | last :: first =>
      settle (runWithin go position first.reverse last state.forgetTold passLimits)

end Evaluation
end Shell
end Snippets
