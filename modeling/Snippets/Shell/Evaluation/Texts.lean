import Snippets.Shell.Evaluation.Scripts

/-!
# Running texts

A text is read line by line, and the commands of each line run before the next line is read.
-/

namespace Snippets
namespace Shell
namespace Evaluation

/-- Whether nothing but blank lines and comments is left of a script. -/
def isDone (rest : List Char) : Bool :=
  (Script.skipLines (rest.length + 1) rest).isEmpty

/-- Complains about a text that is no script. -/
def refuseText (origin : Origin) (script : List Char) (state : State) : Result :=
  let state := state.withStatus Builtin.usage
  if !state.isBash then (.exit, state.complain "Syntax error".toList)
  else
    let place := match origin with
      | .start => if state.has "command" then "-c: " else ""
      | .arguments => "eval: "
      | .trap => "trap: "
      | .word => "command substitution: "
      | .file => ""
    let name := if state.source.isEmpty then state.name else state.source
    let line := state.linesRead + Script.countLines script + 1
    let state := state.write 2 (name ++ ofText (": " ++ place ++ "line " ++ toString line ++
      ": syntax error: unexpected end of file\n"))
    let goesOn := origin = .arguments ∨ origin = .file ∨ origin = .trap
    (if goesOn then .next else .exit, state)

/-- Writes the lines that have been read, where that is wanted. -/
def tellLines (origin : Origin) (text : List Char) (state : State) : State :=
  let isRead := state.has "verbose" && (origin = .start || origin = .file) &&
    (state.isBash || !state.has "command")
  if isRead then
    let lacksEnd := state.isBash && text.getLast? != some '\n'
    state.write 2 (if lacksEnd then text ++ ['\n'] else text)
  else state

/-- Runs the commands of a text in the shell itself.  The fuel bounds their number. -/
def runText (go : Go) (position : Position) (origin : Origin) :
    Nat → List Char → State → Result
  | 0, _, state => (.next, state)
  | fuel + 1, script, state =>
      match Script.next (state.reading script) script with
      | .finished => (.next, state)
      | .wrong => refuseText origin script state
      | .command command rest =>
          let linesRead :=
            state.linesRead + (Script.countLines script - Script.countLines rest)
          let state := tellLines origin (script.take (script.length - rest.length)) state
          if state.has "noexec" then
            runText go position origin fuel rest { state with linesRead := linesRead }
          else
            let isLast := position.isLast && isDone rest
            let (flow, state) := go (.command { position with isLast := isLast } command) state
            let state := { state with linesRead := linesRead }
            match flow with
            | .next =>
                if state.has "onecmd" ∧ origin = .start then (.exit, state)
                else runText go position origin fuel rest state
            | .abandon =>
                if 0 < state.depth then (.exit, state)
                else runText go position origin fuel rest state
            | flow => (flow, state)

/-- The number of commands that are read from standard input at most. -/
def mostCommands : Nat := 1000000

/-- Runs the script on standard input, of which its commands may read the rest. -/
def runInput (go : Go) : Nat → State → Result
  | 0, state => (.next, state)
  | fuel + 1, state =>
      let script := state.input
      match Script.next (state.reading script) script with
      | .finished => (.next, state.setInput [])
      | .wrong => refuseText .start script (state.setInput [])
      | .command command rest =>
          let linesRead :=
            state.linesRead + (Script.countLines script - Script.countLines rest)
          let state := tellLines .start (script.take (script.length - rest.length)) state
          let (flow, state) := go (.command .plain command) (state.setInput rest)
          let state := { state with linesRead := linesRead }
          match flow with
          | .next => if state.has "onecmd" then (.exit, state) else runInput go fuel state
          | .abandon => runInput go fuel state
          | flow => (flow, state)

/-- The number of octets that the plain shell reads at once. -/
def blockSize : Nat := 8192

/-- Runs the script on standard input, which is read block by block: what has been read is out
of the reach of its commands. -/
def runBlocks (go : Go) : Nat → List Char → State → Result
  | 0, _, state => (.next, state)
  | fuel + 1, held, state =>
      let input := state.input
      let read := fun _ : Unit =>
        runBlocks go fuel (held ++ input.take blockSize) (state.setInput (input.drop blockSize))
      match Script.next (state.reading held) held with
      | .finished => if input.isEmpty then (.next, state) else read ()
      | .wrong => if input.isEmpty then refuseText .start held state else read ()
      | .command command rest =>
          if rest.isEmpty ∧ !input.isEmpty ∧ held.getLast? ≠ some '\n' then read ()
          else
            let linesRead :=
              state.linesRead + (Script.countLines held - Script.countLines rest)
            let state := tellLines .start (held.take (held.length - rest.length)) state
            match go (.command .plain command) state with
            | (.next, state) => runBlocks go fuel rest { state with linesRead := linesRead }
            | result => result

/-- Runs the script on standard input. -/
def runStandardInput (go : Go) (state : State) : Result :=
  let state := Program.awaitInput 0 state
  match state.stream? 0, state.dialect with
  | some (.buffer _), .bash => runInput go mostCommands state
  | some (.buffer _), .plain => runBlocks go mostCommands [] state
  | _, _ => runText go .plain .start (state.input.length + 1) state.input state

end Evaluation
end Shell
end Snippets
