import Snippets.Shell.Evaluation.Basic
import Snippets.Shell.Evaluation.Loops
import Snippets.Shell.Evaluation.Pipelines
import Snippets.Shell.Evaluation.Simple

/-!
# Evaluation

A shell runs commands, texts and programs, each of which may need others.  Every step inwards
takes fuel; a shell that has none left is ended as if its functions called each other without
end.  The time of a command is told in a format of its own, in which signs stand for the time
that has passed and for the time that was used.
-/

namespace Snippets
namespace Shell
namespace Evaluation

/-- A number of microseconds in seconds, with a number of digits after the point, or in minutes
and seconds. -/
def timeText (digits : Nat) (isLong : Bool) (microseconds : Nat) : List Char :=
  let seconds := microseconds / 1000000
  let fraction := ofNat (1000000 + microseconds % 1000000)
  let shown := if digits = 0 then [] else '.' :: (fraction.drop 1).take digits
  if isLong then
    ofNat (seconds / 60) ++ 'm' :: ofNat (seconds % 60) ++ shown ++ ['s']
  else ofNat seconds ++ shown

/-- The format in which one shell tells times unless another is given. -/
def usualFormat : String := "\nreal\t%3lR\nuser\t%3lU\nsys\t%3lS"

/-- The portable format. -/
def portableFormat : String := "real %2R\nuser %2U\nsys %2S"

/-- A format with the times in place of its signs.  The fuel bounds its length. -/
def filledFormat (microseconds : Nat) : Nat → List Char → List Char
  | 0, _ => []
  | _, [] => []
  | fuel + 1, '%' :: rest =>
      let digits := rest.takeWhile Char.isDigit
      let after := rest.drop digits.length
      let isLong := after.head? = some 'l'
      let after := if isLong then after.drop 1 else after
      let precision := min 3 ((toNat? digits).getD 3)
      match after with
      | 'R' :: rest =>
          timeText precision isLong microseconds ++ filledFormat microseconds fuel rest
      | 'U' :: rest => timeText precision isLong 0 ++ filledFormat microseconds fuel rest
      | 'S' :: rest => timeText precision isLong 0 ++ filledFormat microseconds fuel rest
      | 'P' :: rest => "0.00".toList ++ filledFormat microseconds fuel rest
      | '%' :: rest => '%' :: filledFormat microseconds fuel rest
      | after => '%' :: filledFormat microseconds fuel after
  | fuel + 1, octet :: rest => octet :: filledFormat microseconds fuel rest

/-- Tells how long a command took that has started at a time. -/
def tellTime (isPortable : Bool) (begun : Nat) (state : State) : State :=
  let format := if isPortable then portableFormat.toList
    else (state.value? "TIMEFORMAT".toList).getD usualFormat.toList
  if format.isEmpty then state
  else
    let passed := state.world.clock - begun
    state.write 2 (filledFormat passed (format.length + 1) format ++ ['\n'])

/-- Runs commands one after the other. -/
def runAll (go : Go) (position : Position) : List Command → State → Result
  | [], state => (.next, state)
  | [command], state => go (.command position command) state
  | command :: rest, state =>
      andThen (go (.command position.inner command) state) (runAll go position rest)

/-- Makes a function. -/
def define (name : List Char) (body : Command) (state : State) : State :=
  let source :=
    if !state.source.isEmpty then state.source
    else if state.has "command" then "environment".toList
    else "main".toList
  { state with
    functions := (name, ⟨body, source⟩) ::
      state.functions.filter fun entry => entry.1 != name
    status := 0 }

/-- Runs a command. -/
def runCommand (go : Go) (position : Position) (command : Command) (state : State) : Result :=
  let checked := fun result : Result =>
    checkFailure go position (afterCommand go result)
  let at_ := fun line : Nat => { state with line := line, command := some command }
  match command with
  | .simple line assignments arguments redirections =>
      checked (runSimple go position line assignments arguments redirections state)
  | .pipeline true commands =>
      andThen (runPipeline go .condition commands state) fun state =>
        (.next, state.withStatus (if state.status = 0 then 1 else 0))
  | .pipeline false commands => checked (runPipeline go position commands state)
  | .timed isPortable inner =>
      let (flow, after) := go (.command position.inner inner) state
      (flow, tellTime isPortable state.world.clock after)
  | .both first second =>
      andThen (go (.command .condition first) state) fun state =>
        if state.status = 0 then go (.command position second) state else (.next, state)
  | .either first second =>
      andThen (go (.command .condition first) state) fun state =>
        if state.status = 0 then (.next, state) else go (.command position second) state
  | .sequence commands => runAll go position commands state
  | .background inner => settle (background go inner state)
  | .subshell inner =>
      let (flow, after) := runCopy go position inner state
      checked (single (flow, tellEnd after))
  | .group inner => go (.command position inner) state
  | .redirected inner redirections =>
      redirected go redirections checked state (go (.command position.inner inner))
  | .branch condition first second =>
      andThen (go (.command .condition condition) state) fun state =>
        match state.status, second with
        | 0, _ => go (.command position first) state
        | _, some second => go (.command position second) state
        | _, none => (.next, state.withStatus 0)
  | .loop opposite condition body =>
      inLoop state (runWhile go position opposite condition body mostTurns 0)
  | .counted line start condition next body =>
      startCounted go position start condition next body (at_ line)
  | .each line name words body => startEach go position line name words body (at_ line)
  | .select line name words body => startSelect go position line name words body (at_ line)
  | .choice line word cases => startChoice go position word cases (at_ line)
  | .define name body => (.next, define name body state)
  | .arithmetic line expression =>
      andThen (runOccasion go "DEBUG" (at_ line)) fun state =>
        checked (single (runArithmetic go expression state))
  | .condition line test =>
      andThen (runOccasion go "DEBUG" (at_ line)) fun state =>
        checked (single (runCondition go test state))

/-- Does something, given how other things are done. -/
def act (go : Go) (activity : Activity) (state : State) : Result :=
  match activity with
  | .command position command => runCommand go position command state
  | .text position origin script =>
      runText go position origin (script.length + 1) script state
  | .program words => startProgram go words state

/-- Does something.  The fuel bounds how deeply things are inside of each other. -/
def perform : Nat → Go
  | 0, _, state => (.ended overflowSignal, state)
  | fuel + 1, activity, state => act (perform fuel) activity state

/-- How deeply things may be inside of each other. -/
def deepest : Nat := 20000

/-- Does something in a shell. -/
def run (activity : Activity) (state : State) : Result :=
  perform deepest activity state

end Evaluation
end Shell
end Snippets
