import Snippets.Shell.Evaluation.Copies

/-!
# Scripts inside of commands

Words may hold scripts: one whose output takes the place of the word, or one that stands at the
other end of a file.  Each of them runs in a copy of the shell.
-/

namespace Snippets
namespace Shell
namespace Evaluation

/-- A copy of a shell for a script that a word holds. -/
def copyForWord (state : State) : State :=
  let copy := { copyOf state with nesting := state.nesting + 1, linesRead := state.line - 1 }
  if state.isBash ∧ !state.has "inherit_errexit" ∧ !state.has "posix" then
    copy.setSetting "errexit" false
  else copy

/-- Runs a script in a copy of a shell, to its end. -/
def runInCopy (go : Go) (script : List Char) (state copy : State) : Result :=
  afterCopy state (finish go (go (.text ⟨false, true⟩ .word script) copy))

/-- What a script prints, run in a copy of the shell.  Processes that it leaves behind may print
more, and are waited for if they do. -/
def substitute (go : Go) (script : List Char) (state : State) : List Char × State :=
  let (number, world) := state.world.addBuffer []
  let state := { state with world := world }
  let (_, after) := runInCopy go script state
    ((copyForWord state).setStream 1 (.buffer number))
  let after := after.modifyWorld (World.drain number)
  let text := after.world.buffer number
  let after := { after with lastSubstitution := some after.status }
  -- One shell does not know the status before the command is complete.
  let after := if state.isBash then { after with signal := none }
    else (tellEnd after).withStatus state.status
  if text.contains '\x00' then
    let after := if state.isBash then
        after.complain "warning: command substitution: ignored null byte in input".toList
      else after
    (text.filter (· != '\x00'), after)
  else (text, after)

/-- The number of octets that a script on the other end of a file prints at most. -/
def fileLimit : Nat := 1048576

/-- The number of the descriptor for the next file that has a script on its other end. -/
def nextFile (state : State) : Nat :=
  let used := state.descriptors.map Prod.fst
  let free := (List.range 54).find? fun offset : Nat => !used.contains (63 - offset)
  63 - free.getD 0

/-- The path of a file that a script fills, or of one that it reads.  The one that reads runs
after the command, the other one at the same time. -/
def processFile (go : Go) (script : List Char) (isRead : Bool) (state : State) :
    List Char × State :=
  let number := nextFile state
  let path := "/dev/fd/".toList ++ ofNat number
  let (buffer, world) := state.world.addBuffer []
  let process := world.nextProcess
  let state := { state with world := world }
  if isRead then
    let listener : Listener := ⟨buffer, script, state.descriptors⟩
    (path, { state.setStream number (.buffer buffer) with
      listeners := listener :: state.listeners })
  else
    let limits := world.limits
    let limited := state.modifyWorld fun world =>
      { world with limits := (buffer, fileLimit) :: limits }
    let (_, after) := runInCopy go script state
      ((copyForWord limited).setStream 1 (.buffer buffer))
    let ending : Effect := ⟨after.world.clock, process, .finish after.status [buffer]⟩
    let world := { after.world with clock := world.clock, limits := limits }
    let state := { state with
      world := world.schedule [ending]
      lastJob := some process
      children := process :: state.children }
    (path, state.setStream number (.buffer buffer))

/-- How scripts inside of words are run. -/
def running (go : Go) : Expansion.Running where
  substitute := substitute go
  evaluate script state :=
    let (flow, after) := go (.text .plain .arguments script)
      { state with linesRead := state.line - 1 }
    (flow, { after with linesRead := state.linesRead })
  process := processFile go

end Evaluation
end Shell
end Snippets
