import Snippets.Shell.Evaluation.Basic
import Snippets.Shell.Signal

/-!
# Copies of a shell, traps and signals

Some commands run in a copy of the shell, from which only the world and a status come back.
Scripts that have been set for signals and other occasions run when these arise.
-/

namespace Snippets
namespace Shell
namespace Evaluation

/-- Whether a trap stays in a copy of the shell: signals that are ignored stay so. -/
def staysInCopy (state : State) (trap : String × List Char) : Bool :=
  match trap.1 with
  | "EXIT" => false
  | "ERR" => state.has "errtrace"
  | "DEBUG" | "RETURN" => state.has "functrace"
  | _ => trap.2.isEmpty

/-- The microseconds that it takes to make a copy of a shell. -/
def copyCost : Nat := 300

/-- A copy of a shell, which is another process. -/
def copyOf (state : State) : State :=
  let number := state.world.nextProcess
  { state with
    world := { state.world.wait copyCost with nextProcess := number + 1, current := number }
    jobs := if state.isBash then state.jobs else []
    ownProcess := number
    ancestors := state.ownProcess :: state.ancestors
    children := []
    traps := state.traps.filter (staysInCopy state)
    formerTraps := some (state.formerTraps.getD state.traps)
    listeners := []
    depth := state.depth + 1
    loops := if state.isBash then 0 else state.loops
    signal := none }

/-- A shell after a copy of it has run: the world is that of the copy.  The end of the time ends
the shell as well; any other signal has ended the copy alone. -/
def afterCopy (before : State) (result : Result) : Result :=
  let (flow, after) := result
  let state := { before with
    world := { after.world with current := before.world.current }
    nextIdentity := after.nextIdentity
    status := after.status
    signal := none }
  match flow with
  | .ended signal =>
      if state.world.isLate then (.ended signal, state)
      else (.next, { state with status := 128 + signal, signal := some signal })
  | _ => (.next, state)

/-- Says how a program was ended, if a signal did that which is told of. -/
def tellEnd (state : State) : State :=
  match state.signal with
  | none => state
  | some signal =>
      let words := Signal.description signal
      let state := { state with signal := none }
      if words.isEmpty then state else state.write 2 (ofText (words ++ "\n"))

/-- Runs the script of a trap.  The status is then what it was before. -/
def runTrap (go : Go) (script : List Char) (state : State) : Result :=
  let before := if state.isBash then state.statusBefore else some state.status
  let inner := { state with statusBefore := before, linesRead := state.line - 1 }
  match go (.text .plain .trap script) inner with
  | (flow, after) =>
      let after := { after with statusBefore := state.statusBefore, linesRead := state.linesRead }
      if flow = .next ∨ flow = .abandon then
        (.next, { after with
          status := state.status, statuses := state.statuses, line := state.line })
      else (flow, after)

/-- Runs the script for an occasion, which does not run while it is running already. -/
def runOccasion (go : Go) (name : String) (state : State) : Result :=
  match state.traps.lookup name with
  | none | some [] => (.next, state)
  | some script =>
      let others := state.traps.filter fun trap => trap.1 != name
      let (flow, after) := runTrap go script { state with traps := others }
      let isThere := (after.traps.lookup name).isSome
      (flow, if isThere then after else { after with traps := (name, script) :: after.traps })

/-- Lets the signals take effect that wait for the shell. -/
def deliver (go : Go) : Nat → Result → Result
  | 0, result => result
  | fuel + 1, (flow, state) =>
      let isOurs := fun entry : Nat × Nat => entry.1 == state.ownProcess
      match flow, state.world.signals.find? isOurs with
      | .ended _, _ => (flow, state)
      | _, none => (flow, state)
      | _, some (_, number) =>
          let rest := state.world.signals.eraseP isOurs
          let state := state.modifyWorld fun world => { world with signals := rest }
          let script := if number = killSignal then none
            else (Signal.name? number).bind fun name => state.traps.lookup name
          match script with
          | some [] => deliver go fuel (flow, state)
          | some script =>
              match runTrap go script state with
              | (.next, state) => deliver go fuel (flow, state)
              | result => result
          | none =>
              if Signal.ends number then (.ended number, state.withStatus (128 + number))
              else deliver go fuel (flow, state)

/-- What follows each command: time may be over, and signals may have arrived. -/
def afterCommand (go : Go) (result : Result) : Result :=
  let result := settle result
  if result.2.world.signals.isEmpty then result
  else deliver go (result.2.world.signals.length + 16) result

/-- Ends the script if a failure does and the status is one. -/
def checkFailure (go : Go) (position : Position) (result : Result) : Result :=
  match result with
  | (.next, state) =>
      if position.tested ∨ state.status = 0 then result
      else
        andThen (runOccasion go "ERR" state) fun state =>
          if state.has "errexit" then (.exit, state) else (.next, state)
  | other => other

/-- Runs the scripts that read what was written for them. -/
def runListeners (go : Go) : List Listener → State → State
  | [], state => state
  | listener :: rest, state =>
      let status := state.status
      let copy := { copyOf state with descriptors := listener.descriptors }.setStream 0
        (.buffer listener.buffer)
      let (_, after) := afterCopy state
        (go (.text ⟨false, true⟩ .word listener.script) copy)
      runListeners go rest (after.withStatus status)

/-- Runs the scripts that read what the running command has written. -/
def drainListeners (go : Go) (state : State) : State :=
  if state.listeners.isEmpty then state
  else runListeners go state.listeners { state with listeners := [] }

/-- Runs what a script has asked for at its end. -/
def finish (go : Go) (result : Result) : Result :=
  let (flow, state) := result
  let runs : Bool := match flow with
    | .ended signal => state.isBash && signal != killSignal
    | _ => true
  let (flow, state) := match state.traps.lookup "EXIT", runs with
    | some script, true =>
        let inner := { state with
          traps := state.traps.filter fun trap => trap.1 != "EXIT"
          statusBefore := some state.status
          linesRead := 0
          loops := 0 }
        match go (.text .plain .trap script) inner, flow with
        | (.ended signal, after), _ => (.ended signal, after)
        | (_, after), .ended signal => (.ended signal, after)
        | (.next, after), flow => (flow, after.withStatus state.status)
        | (.abandon, after), flow => (flow, after.withStatus state.status)
        | (_, after), _ => (.exit, after)
    | _, _ => (flow, state)
  (flow, drainListeners go state)

/-- Runs a command in a copy of the shell. -/
def runCopy (go : Go) (position : Position) (command : Command) (state : State) : Result :=
  let state := state.forgetTold
  let copy := { copyOf state with jobs := [] }
  afterCopy state (finish go (go (.command { position with isLast := true } command) copy))

end Evaluation
end Shell
end Snippets
