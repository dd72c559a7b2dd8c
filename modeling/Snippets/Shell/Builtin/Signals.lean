import Snippets.Shell.Builtin.Basic
import Snippets.Shell.Signal

/-!
# Signals and jobs

Scripts are set that run when a signal arrives, signals are sent, and commands in the
background are listed and waited for.
-/

namespace Snippets
namespace Shell
namespace Builtin

/-- The things besides signals for which a script can be set. -/
def occasions : List String := ["DEBUG", "ERR", "RETURN"]

/-- The name under which the script for a signal is kept. -/
def trapName? (text : List Char) (state : State) : Option String :=
  let capitals := String.ofList (text.map Char.toUpper)
  let bare := if "SIG".toList.isPrefixOf capitals.toList then
      String.ofList (capitals.toList.drop 3) else capitals
  match Signal.ofText? state.isBash text with
  | some 0 => some "EXIT"
  | some number => Signal.name? number
  | none => if state.isBash ∧ occasions.contains bare then some bare else none

/-- The names of all traps in the order in which they are listed. -/
def trapOrder : List String :=
  "EXIT" :: Signal.all.map Prod.snd ++ occasions

/-- A trap as the command that sets it. -/
def trapLine (state : State) (entry : String × List Char) : List Char :=
  let isSignal := entry.1 != "EXIT" && !occasions.contains entry.1
  let start := "trap -- ".toList
  if state.isBash then
    start ++ Quoting.inSingle entry.2 ++ ' ' ::
      (if isSignal then "SIG" ++ entry.1 else entry.1).toList ++ ['\n']
  else start ++ Quoting.inPieces entry.2 ++ ' ' :: entry.1.toList ++ ['\n']

/-- The traps that are listed: those of the shell that a copy comes from, until the copy sets
one. -/
def listedTraps (state : State) : List (String × List Char) :=
  if state.isBash then state.formerTraps.getD state.traps else state.traps

/-- Prints the traps of some names, or all. -/
def printTraps (chosen : List String) (state : State) : State :=
  let lines := trapOrder.filterMap fun name =>
    if chosen.isEmpty ∨ chosen.contains name then
      ((listedTraps state).lookup name).map fun script => trapLine state (name, script)
    else none
  state.write 1 lines.flatten

/-- Sets the script for a name, or none. -/
def setTrap (name : String) (script : Option (List Char)) (state : State) : State :=
  let others := state.traps.filter fun entry => entry.1 != name
  { state with
    traps := match script with
      | some script => (name, script) :: others
      | none => others
    formerTraps := none }

/-- Sets a script for signals, or none, or prints those that are set. -/
def trap : Builtin := ofWords fun arguments state =>
  withLetters "trap" (if state.isBash then "lp" else "") arguments state fun given rest =>
    if isGiven 'l' given then print Signal.table state
    else if isGiven 'p' given ∨ rest.isEmpty then
      let wrong := rest.filter fun text => (trapName? text state).isNone
      let state := (printTraps (rest.filterMap fun text => trapName? text state) state).withStatus 0
      (.next, wrong.foldl
        (fun state text =>
          state.fail ("trap: " ++ toText text ++ ": invalid signal specification") 1)
        state)
    else
      let first := rest.head?.getD []
      let isReset := rest.length = 1 ∨ (toNat? first).isSome
      if state.isBash ∧ rest.length = 1 ∧ (trapName? first state).isNone then
        misused "trap" state
      else
        let (script, signals) : Option (List Char) × List (List Char) :=
          if isReset then (none, rest)
          else if first = ['-'] then (none, rest.drop 1)
          else (some first, rest.drop 1)
        let (flow, state) := signals.foldl
          (fun (result : Flow × State) text =>
            let state := result.2
            match trapName? text state with
            | some name => (.next, setTrap name script state)
            | none =>
                if state.isBash then
                  (.next,
                    state.fail ("trap: " ++ toText text ++ ": invalid signal specification") 1)
                else
                  (.next, (state.write 2 (ofText ("trap: " ++ toText text ++
                    ": bad trap\n"))).withStatus 1))
          (Flow.next, state.withStatus 0)
        (flow, state)

/-- Whether a signal has ended a process. -/
def isKilled (process : Nat) (state : State) : Bool :=
  (state.world.ended.lookup process).any fun status => 128 < status

/-- The jobs that are known, the earliest first.  A shell with the extensions tells the end of a
job by a signal at once.  When it runs the text of an argument, it knows only jobs that are
running. -/
def knownJobs (state : State) : List Job :=
  if !state.isBash then state.jobs
  else if state.has "command" then state.jobs.filter fun job => state.isRunning job.process
  else
    state.jobs.filter fun job =>
      state.isRunning job.process || !isKilled job.process state

/-- The job that a text after a percent sign stands for. -/
def jobOf? (text : List Char) (state : State) : Option Job :=
  let jobs := knownJobs state
  match text with
  | '%' :: rest =>
      match toNat? rest, rest with
      | some number, _ => jobs.find? fun job => job.number = number
      | none, [] | none, ['%'] | none, ['+'] => jobs.getLast?
      | none, ['-'] => jobs.dropLast.getLast?.orElse fun _ => jobs.getLast?
      | none, '?' :: part => jobs.reverse.find? fun job =>
          (List.range (job.text.length + 1)).any fun start : Nat =>
            part.isPrefixOf (job.text.drop start)
      | none, start => jobs.reverse.find? fun job => start.isPrefixOf job.text
  | _ => none

/-- Sends a signal to a process, if there is one. -/
def sendSignal (process number : Nat) (state : State) : Option State :=
  if process = state.ownProcess ∨ process = state.process ∨ process = 0 ∨
      state.ancestors.contains process then
    let target := if process = 0 then state.ownProcess else process
    some (if number = 0 then state else state.modifyWorld (World.send target number))
  else if state.isRunning process then
    let isIgnored := number = 2 ∨ number = 3
    some (if Signal.ends number ∧ ¬isIgnored then
      state.modifyWorld (World.stop process (128 + number)) else state)
  else if process = state.parent ∨ process = 1 then some state
  else none

/-- Sends a signal to what each operand names. -/
def sendAll (number : Nat) (operands : List (List Char)) (state : State) : Flow × State :=
  operands.foldl
    (fun (result : Flow × State) text =>
      let state := result.2
      let send := fun process : Nat =>
        match sendSignal process number state with
        | some state => (Flow.next, state)
        | none =>
            if state.isBash then
              (.next, state.fail ("kill: (" ++ toString process ++ ") - No such process") 1)
            else (.next, state.fail "kill: No such process\n" 1)
      if text.head? = some '%' then
        match jobOf? text state with
        | some job =>
            -- Without job control, the plain shell does not find the processes of a job.
            if !state.isBash then (.next, state.fail "kill: No such process\n" 1)
            else if state.isRunning job.process then send job.process
            else (.next, state)
        | none =>
            refuseBy "kill" (toText text ++ ": no such job") ("No such job: " ++ toText text) 1
              state
      else
        match toInt? text with
        | some process =>
            if process < 0 ∧ !state.isBash then
              refuse "kill" ("Illegal number: " ++ toText text) 1 state
            else send process.natAbs
        | none =>
            refuseBy "kill" (toText text ++ ": arguments must be process or job IDs")
              ("Illegal number: " ++ toText text) 1 state)
    (.next, state.withStatus 0)

/-- Prints the names of signals, or of those that operands name. -/
def listSignals (operands : List (List Char)) (state : State) : Flow × State :=
  if operands.isEmpty then
    if state.isBash then print Signal.table state
    else
      print (['0', '\n'] ++ (List.range Signal.greatest).flatMap fun number : Nat =>
        (Signal.name? (number + 1)).elim (ofNat (number + 1)) String.toList ++ ['\n']) state
  else
    operands.foldl
      (fun (result : Flow × State) text =>
        let (flow, state) := result
        if flow ≠ .next ∨ (!state.isBash ∧ state.status ≠ 0) then result
        else
          match toNat? text with
          | some number =>
              let reduced := if 128 < number then number - 128 else number
              match Signal.name? reduced with
              | some name => (.next, state.write 1 (name.toList ++ ['\n']))
              | none =>
                  if reduced = 0 then
                    (.next, state.write 1 (if state.isBash then "EXIT\n" else "0\n").toList)
                  else
                    refuseBy "kill" (toText text ++ ": invalid signal specification")
                      ("invalid signal number or exit status: " ++ toText text) 1 state
          | none =>
              if state.isBash then
                match Signal.ofText? true text with
                | some number => (.next, state.write 1 (ofNat number ++ ['\n']))
                | none =>
                    refuse "kill" (toText text ++ ": invalid signal specification") 1 state
              else refuse "kill" ("Illegal number: " ++ toText text) 1 state)
      (.next, state.withStatus 0)

/-- Complains about the use of the command that sends signals. -/
def misusedKill (state : State) : Flow × State :=
  if state.isBash then misused "kill" state
  else
    refuse "kill" ("Usage: kill [-s sigspec | -signum | -sigspec] [pid | job]... or\n" ++
      "kill -l [exitstatus]") usage state

/-- Sends a signal. -/
def kill : Builtin := ofWords fun arguments state =>
  let send := fun (text : List Char) (operands : List (List Char)) =>
    let operands := if operands.head? = some "--".toList then operands.drop 1 else operands
    match Signal.ofText? state.isBash text with
    | none =>
        if state.isBash then
          refuse "kill" (toText text ++ ": invalid signal specification") 1 state
        else refuse "kill" ("Illegal option -" ++ toText (text.take 1)) 1 state
    | some number =>
        if operands.isEmpty then misusedKill state else sendAll number operands state
  match arguments with
  | [] => misusedKill state
  | ['-', 'l'] :: rest => listSignals rest state
  | ['-', 'L'] :: rest => listSignals rest state
  | ['-', '-'] :: rest => if rest.isEmpty then misusedKill state else sendAll 15 rest state
  | ['-', letter] :: rest =>
      if letter = 's' ∨ (letter = 'n' ∧ state.isBash) then
        match rest with
        | name :: operands => send name operands
        | [] =>
            refuseBy "kill" ("-" ++ toText [letter] ++ ": option requires an argument")
              ("No arg for -" ++ toText [letter] ++ " option") 1 state
      else send [letter] rest
  | ('-' :: 's' :: name) :: operands =>
      if (Signal.ofText? state.isBash ('s' :: name)).isSome then send ('s' :: name) operands
      else send name operands
  | ('-' :: name) :: operands => send name operands
  | operands => sendAll 15 operands state

/-- The mark of a job in lists: of the last one and of the one before it. -/
def jobMark (state : State) (job : Job) : Char :=
  let jobs := knownJobs state
  match jobs.getLast? with
  | some last =>
      let before := if state.isBash then last.before
        else (jobs.dropLast.getLast?).map Job.number
      if last.number = job.number then '+'
      else if before = some job.number then '-'
      else ' '
  | none => ' '

/-- What is told of a job. -/
def jobState (state : State) (job : Job) : String :=
  if state.isRunning job.process then "Running"
  else
    match state.world.ended.lookup job.process with
    | some 0 => "Done"
    | some status =>
        if 128 < status ∧ Signal.description (status - 128) ≠ "" then
          Signal.description (status - 128)
        else if state.isBash then "Exit " ++ toString status
        else "Done(" ++ toString status ++ ")"
    | none => "Done"

/-- The line for a job. -/
def jobLine (isLong : Bool) (state : State) (job : Job) : List Char :=
  let start := '[' :: ofNat job.number ++ [']']
  let process := if isLong then ofNat job.process ++ [' '] else []
  let what := (jobState state job).toList
  let mark := jobMark state job
  if state.isBash then
    let running := state.isRunning job.process
    start ++ mark :: ' ' :: (if isLong then process else [' ']) ++ padRight 24 what ++
      job.text ++ (if running then " &".toList else []) ++ ['\n']
  else
    padRight 33 (start ++ ' ' :: mark :: ' ' :: process ++ what) ++ ['\n']

/-- The lines for jobs in the plain shell, the last one first.  Each job that has ended is
forgotten as soon as it is listed. -/
def plainLines (isLong : Bool) (state : State) (jobs : List Job) : List Char :=
  ((jobs.foldl
    (fun (result : List Char × State) job =>
      let (lines, state) := result
      let line := jobLine isLong state job
      let others := state.jobs.filter fun other =>
        other.process != job.process || state.isRunning job.process
      (lines ++ line, { state with jobs := others }))
    ([], state)).1)

/-- A shell that has listed some jobs.  The end of a job is listed once. -/
def afterList (listed : List Job) (state : State) : State :=
  let isListed := fun job : Job => listed.any fun other => other.process = job.process
  let told := state.tellJobs fun job => isListed job && !state.isRunning job.process
  if state.isBash then told else told.forgetTold

/-- Lists the commands in the background. -/
def jobs : Builtin := ofWords fun arguments state =>
  withLetters "jobs" (if state.isBash then "lnprs" else "lp") arguments state
    fun given operands =>
      let isBash := state.isBash
      let state := if isBash then state.forgetTold else state
      let show_ := fun job : Job =>
        if isGiven 'p' given then ofNat job.process ++ ['\n']
        else jobLine (isGiven 'l' given) state job
      if operands.isEmpty then
        let all := (knownJobs state).filter fun job => !isBash || !job.isTold
        -- One shell lists the last job first, and then the one before it.
        let all := if isBash then all else all.reverse
        let chosen := if isGiven 's' given then []
          else if isGiven 'r' given then all.filter fun job => state.isRunning job.process
          else all
        let text := if isBash || isGiven 'p' given then chosen.flatMap show_
          else plainLines (isGiven 'l' given) state chosen
        done 0 (afterList chosen (state.write 1 text))
      else
        operands.foldl
          (fun (result : Flow × State) text =>
            let state := result.2
            match jobOf? text state with
            | some job => (.next, afterList [job] (state.write 1 (show_ job)))
            | none =>
                refuseBy "jobs" (toText text ++ ": no such job") ("No such job: " ++ toText text)
                  1 state)
          (.next, state.withStatus 0)

/-- The number of a signal that has arrived for the shell, unless it is one that the shell does
not take notice of. -/
def arrived? (state : State) : Option Nat :=
  state.world.signals.findSome? fun entry =>
    let script := (Signal.name? entry.2).bind fun name => state.traps.lookup name
    let isNoticed : Bool := match script with
      | some script => !script.isEmpty
      | none => Signal.ends entry.2
    if entry.1 = state.ownProcess ∧ isNoticed then some entry.2 else none

/-- Lets time pass up to each of some times, until a signal arrives. -/
def waitThrough : List Nat → State → State
  | [], state => state
  | time :: rest, state =>
      if (arrived? state).isSome then state
      else waitThrough rest (state.modifyWorld (World.waitUntil time))

/-- Lets time pass up to a point, or until a signal arrives. -/
def waitOrWake (time : Nat) (state : State) : State :=
  let times := (state.world.later.map Effect.time).filter fun other => other < time
  waitThrough (times ++ [time]) state

/-- Whether a process is one that the shell has sent to the background. -/
def isChild (process : Nat) (state : State) : Bool :=
  state.children.contains process

/-- The jobs of the shell itself, and not of the shell that it is a copy of. -/
def ownJobs (state : State) : List Job :=
  state.jobs.filter fun job => isChild job.process state

/-- Waits for a process, whose status becomes that of the command.  A signal that arrives ends
the waiting. -/
def waitProcess (process : Nat) (state : State) : Option State :=
  let state := match state.world.endOf? process with
    | some time => waitOrWake time state
    | none => state
  match arrived? state with
  | some number => some (state.withStatus (128 + number))
  | none =>
      (state.world.ended.lookup process).map fun status =>
        let state := state.tellJobs fun job => job.process == process
        let isSaid := !state.isBash && 128 < status && status ≠ 130 &&
          Signal.description (status - 128) != ""
        let state := if isSaid then
            state.write 2 (ofText (Signal.description (status - 128) ++ "\n"))
          else state
        state.withStatus status

/-- Waits for all that the shell has sent to the background.  The end of the last one of them
is told only if it was waited for. -/
def waitAll (state : State) : State :=
  let endOf := fun job : Job => state.world.endOf? job.process
  let times := (ownJobs state).filterMap endOf
  let lastTime := (state.jobs.getLast?).bind endOf
  let isAlone := lastTime.isSome && (times.filter fun time => lastTime.all (· ≤ time)).length = 1
  let state := match times.max? with
    | some time => waitOrWake time state
    | none => state
  match arrived? state with
  | some number => state.withStatus (128 + number)
  | none =>
      let isTold := fun job : Job => isChild job.process state &&
        (isAlone || !state.isBash || state.lastJob != some job.process)
      let told := (state.tellJobs isTold).withStatus 0
      if state.isBash then told.forgetTold else told

/-- Waits for whichever process ends first, and answers its number. -/
def waitNext (candidates : List Nat) (state : State) : Option (Nat × State) :=
  let running := candidates.filterMap fun process =>
    (state.world.endOf? process).map fun time => (time, process)
  let known := ((state.jobs.filter fun job => !job.isTold).map Job.process).filter
    candidates.contains
  let ended := known.find? fun process => (state.world.ended.lookup process).isSome
  let next := ended.orElse fun _ =>
    ((running.mergeSort fun first second => first.1 ≤ second.1).head?).map Prod.snd
  next.bind fun process => (waitProcess process state).map fun state => (process, state)

/-- Waits for commands in the background. -/
def wait : Builtin := ofWords fun arguments state =>
  withLetters "wait" (if state.isBash then "fnp:" else "") arguments state fun given operands =>
    let name := valueOf? 'p' given
    let named := fun (process : Nat) (state : State) =>
      match name with
      | some name => state.setVariable name (ofNat process)
      | none => state
    let processOf := fun (text : List Char) (state : State) =>
      if text.head? = some '%' then (jobOf? text state).map Job.process else toNat? text
    if isGiven 'n' given then
      let candidates := if operands.isEmpty then
          let isKnown := fun job : Job =>
            !job.isTold && (!state.has "command" || state.isRunning job.process)
          ((ownJobs state).filter isKnown).map Job.process
        else operands.filterMap fun text => processOf text state
      match waitNext candidates state with
      | some (process, state) => (.next, named process state)
      | none => done 127 state
    else if operands.isEmpty then (.next, waitAll state)
    else
      operands.foldl
        (fun (result : Flow × State) text =>
          let state := result.2
          let isJob := text.head? = some '%'
          match processOf text state with
          | none =>
              if isJob then
                refuseBy "wait" (toText text ++ ": no such job") ("No such job: " ++ toText text)
                  127 state
              else
                refuseBy "wait" (shown text ++ ": not a pid or valid job spec")
                  ("Illegal number: " ++ toText text) 1 state
          | some process =>
              -- The plain shell forgets with a job how it has ended.
              let isKnown := isChild process state &&
                (state.isBash || state.jobs.any fun job => job.process == process)
              match if isKnown then waitProcess process state else none with
              | some state => (.next, named process state)
              | none =>
                  if state.isBash then
                    (.next, state.fail ("wait: pid " ++ toString process ++
                      " is not a child of this shell") 127)
                  else done 127 state)
        (.next, state.withStatus 0)

/-- Forgets commands in the background. -/
def disown : Builtin := ofWords fun arguments state =>
  withLetters "disown" "har" arguments state fun given operands =>
    if isGiven 'h' given then done 0 state
    else if isGiven 'a' given ∨ isGiven 'r' given then done 0 { state with jobs := [] }
    else
      let operands := if operands.isEmpty then [['%', '%']] else operands
      operands.foldl
        (fun (result : Flow × State) text =>
          let state := result.2
          let job := match toNat? text with
            | some process => state.jobs.find? fun job : Job => job.process = process
            | none => jobOf? text state
          match job with
          | some job =>
              (.next, { state with
                jobs := state.jobs.filter fun other => other.number != job.number })
          | none =>
              let what := if text = ['%', '%'] then "current" else toText text
              (.next, state.fail ("disown: " ++ what ++ ": no such job") 1))
        (.next, state.withStatus 0)

/-- Complains that commands cannot change between background and foreground. -/
def control (name : String) : Builtin := fun _ _ state =>
  refuseBy name "no job control" "No current job" 1 state

end Builtin
end Shell
end Snippets
