import Snippets.Shell.Evaluation.Programs

/-!
# Calling commands by name

The first word of a command names a function, a command of the shell or a program.  Some
commands of the shell run others.
-/

namespace Snippets
namespace Shell
namespace Evaluation

/-- The number of functions that may be inside of each other. -/
def deepestCalls : Nat := 1500

/-- The signal that ends a shell in which functions call each other without end. -/
def overflowSignal : Nat := 11

/-- Runs a function. -/
def callFunction (go : Go) (position : Position) (name : List Char) (definition : Definition)
    (arguments : List (List Char)) (state : State) : Result :=
  if deepestCalls ≤ state.frames.length then (.ended overflowSignal, state)
  else
    let source := if state.isBash then definition.source else state.source
    let inner := step (state.enter name source true arguments)
    let (flow, after) := go (.command position.inner definition.body) inner
    match flow with
    | .next | .leave =>
        let (flow, after) := runOccasion go "RETURN" after
        (flow, after.leave state)
    | flow => (flow, after.leave state)

/-- How a script goes on after a text that an argument or a file holds: the plain shell ends if
it is no script, unless failures are guarded against. -/
def flowOfText (state : State) (flow : Flow) : Flow :=
  if flow = .exit ∧ state.has "guarded" ∧ state.status = Builtin.usage then .next else flow

/-- Runs arguments as a script. -/
def evaluate (go : Go) (position : Position) (arguments : List (List Char)) (state : State) :
    Result :=
  let run := fun arguments : List (List Char) =>
    let script := [' '].intercalate arguments
    if isDone script then (Flow.next, state.withStatus 0)
    else
      let inner := { state with
        linesRead := state.line - 1
        nesting := state.nesting + 1
        source := if state.isBash then state.source else "eval".toList }
      let (flow, after) := go (.text position.inner .arguments script) inner
      (flowOfText state flow, { after with
        linesRead := state.linesRead, nesting := state.nesting, source := state.source })
  if state.isBash then
    Builtin.withLetters "eval" "" arguments state fun _ rest => run rest
  else run arguments

/-- The path of a file that is found by a name without a slash. -/
def sourcePath (path : List Char) (state : State) : Option (List Char) :=
  if path.contains '/' then some path
  else
    let isFile := fun path : List Char =>
      (state.node? path).any fun node => !node.isDirectory
    let places := (Program.searched (Program.searchOf state)).map fun place =>
      place ++ '/' :: path
    match places.find? isFile with
    | some found => some found
    | none => if state.isBash then some path else none

/-- Runs the script of a file in the shell itself. -/
def readIn (go : Go) (position : Position) (name : String) (arguments : List (List Char))
    (state : State) : Result :=
  let refuse := fun (words : String) (status : Nat) =>
    let flow := if state.isBash ∨ state.has "guarded" then Flow.next else .exit
    (flow, state.fail words (if state.isBash then status else Builtin.usage))
  Builtin.withLetters name "" arguments state fun _ rest =>
    match rest with
    | [] =>
        if state.isBash then
          Builtin.misused name (state.complain (ofText (name ++ ": filename argument required")))
        else (.next, state.withStatus 0)
    | path :: given =>
        let given := if state.isBash then given else []
        match sourcePath path state with
        | none => refuse (".: " ++ toText path ++ ": not found") 1
        | some found =>
            match state.node? found with
            | some (.file content _) =>
                let script := ofBytes content
                let inner := if given.isEmpty then state.arguments else given
                let entered := { state.enter "source".toList found false inner with
                  linesRead := 0, nesting := state.nesting + 1, loops := state.loops }
                let entered := if isDone script then entered.withStatus 0 else entered
                let (flow, after) := go (.text position.inner .file script) entered
                let (flow, after) := match flow with
                  | .next | .leave => runOccasion go "RETURN" after
                  | flow => (flow, after)
                let left := { after.leave state with
                  linesRead := state.linesRead, nesting := state.nesting }
                (flowOfText state flow,
                  if given.isEmpty then { left with arguments := after.arguments } else left)
            | some (.unreadable failure _) =>
                if state.isBash then refuse (toText path ++ ": " ++ failure.words) 1
                else refuse (".: cannot open " ++ toText path ++ ": " ++ failure.words) 1
            | some _ =>
                if state.isBash then refuse (name ++ ": " ++ toText path ++ ": is a directory") 1
                else (.next, state.withStatus 0)
            | none =>
                if state.isBash then refuse (toText path ++ ": No such file or directory") 1
                else refuse (".: cannot open " ++ toText path ++ ": No such file") 1

/-- Prints from where the running function was called. -/
def caller : Builtin := Builtin.ofWords fun arguments state =>
  let sources := state.source :: state.frames.map Frame.source
  let shown := fun index : Nat =>
    match sources[index + 1]? with
    | some [] => if index + 2 < sources.length then "environment".toList else "NULL".toList
    | some source => source
    | none => "NULL".toList
  match arguments, state.frames with
  | _, [] => Builtin.done 1 state
  | [], frame :: _ => Builtin.print (ofNat frame.line ++ ' ' :: shown 0 ++ ['\n']) state
  | text :: _, frames =>
      match toNat? text with
      | none =>
          Builtin.misused "caller" (state.complain (ofText
            ("caller: " ++ toText text ++ ": invalid number")))
      | some index =>
          let isFile := !state.has "command"
          let names := frames.map Frame.name ++ if isFile then ["main".toList] else []
          match frames[index]?, names[index + 1]? with
          | some frame, some name =>
              Builtin.print (ofNat frame.line ++ ' ' :: name ++ ' ' :: shown index ++ ['\n']) state
          | _, _ => Builtin.done 1 state

/-- What takes the place of the shell: a program that was started, and the traps are gone. -/
def replaced (result : Result) : Result :=
  let state := { result.2 with traps := [] }
  match result.1, state.signal with
  | .next, some signal => (.ended signal, state)
  | .next, none => (.exit, state)
  | flow, _ => (flow, state)

/-- Complains that a program cannot take the place of the shell. -/
def notReplaced (name : List Char) (found : Program.Found) (state : State) : Result :=
  let state :=
    if !state.isBash then
      let (words, status) := missingWords name name found state
      let status := if name.isEmpty then 126 else status
      (state.complain ("exec: ".toList ++ words)).withStatus status
    else
      let isPath := name.contains '/'
      let full := if isPath ∧ name.head? ≠ some '/' then
          let direct := if "./".toList.isPrefixOf name then name.drop 2 else name
          state.path ++ '/' :: direct
        else name
      let refused := fun (words : String) =>
        let state := if isPath then state.complain (full ++ ofText (": " ++ words)) else state
        (state.complain ("exec: ".toList ++ full ++ ofText (": cannot execute: " ++ words))
          ).withStatus 126
      let isDirectory := !isPath && (state.node? name).any FileNode.isDirectory
      match found with
      | .directory => refused "Is a directory"
      | .refused => refused "Permission denied"
      | .failed .missing =>
          if isDirectory ∧ !name.isEmpty then refused "Is a directory"
          else if isPath then
            (state.complain (full ++ ": No such file or directory".toList)).withStatus 127
          else (state.complain ("exec: ".toList ++ name ++ ": not found".toList)).withStatus 127
      | .failed failure => refused (lookupMessage failure)
      | .file _ => state
  (if state.isBash ∧ state.has "execfail" then .next else .exit, state)

/-- Puts a program in the place of the shell. -/
def replace (go : Go) (arguments : List (List Char)) (state : State) : Result :=
  let run := fun (given : List (Char × List Char)) (words : List (List Char)) =>
    match words with
    | [] => (Flow.next, state.withStatus 0)
    | name :: rest =>
        let (path, found) := Program.lookup name state
        match found with
        | .file names =>
            let title := (Builtin.valueOf? 'a' given).getD name
            let title := if Builtin.isGiven 'l' given then '-' :: title else title
            let state := if Builtin.isGiven 'c' given then { state with bindings := [] } else state
            replaced (startFile go mostInterpreters path names title rest state)
        | found => notReplaced name found state
  if state.isBash then Builtin.withLetters "exec" "cla:" arguments state run
  else run [] arguments

/-- Runs the program of a name, which is remembered. -/
def callProgram (go : Go) (position : Position) (search : Option (List Char))
    (name : List Char) (arguments : List (List Char)) (state : State) : Result :=
  let look := match search with
    | some search => Program.find state.world.tree state.directory search name
    | none =>
        match Meaning.remembered? name state with
        | some path => (path, Program.atPath state.world.tree state.directory path)
        | none => Program.lookup name state
  let (path, found) := look
  match found, state.functions.lookup "command_not_found_handle".toList with
  | .failed .missing, some definition =>
      if state.isBash ∧ !name.contains '/' then
        afterCopy state (callFunction go position "command_not_found_handle".toList definition
          (name :: arguments) (copyOf state))
      else startFound go name arguments path found state
  | found, _ =>
      let isKept := !name.contains '/' && search.isNone && found.isFile &&
        (!state.isBash || state.has "hashall")
      let state := if isKept then Meaning.remember name path true state else state
      let state := state.forgetTold
      startFound go name arguments path found state

/-- Runs a command of the shell.  The name of the text that is being run does not stand in the
messages of such a command in the plain shell. -/
def callBuiltin (go : Go) (builtin : Builtin) (operands : List Operand) (state : State) : Result :=
  let inner := if state.isBash then state else { state with source := [] }
  let (flow, after) := builtin (running go) operands (step inner)
  (flow, { after with source := state.source })

/-- The commands of the shell that run others, or look for them. -/
def callRunning (go : Go) (position : Position) (name : String) (operands : List Operand)
    (state : State) : Option Result :=
  let arguments := operands.map Operand.text
  if !(Builtin.runningNames state.dialect).contains name ∨ state.has ("without " ++ name) then none
  else
    match name with
    | "eval" => some (evaluate go position arguments state)
    | "." => some (readIn go position "." arguments state)
    | "source" => some (readIn go position "source" arguments state)
    | "exec" => some (replace go arguments state)
    | "type" => some (callBuiltin go Builtin.type operands state)
    | "hash" => some (callBuiltin go Builtin.hash operands state)
    | "caller" => some (callBuiltin go caller operands state)
    | _ => none

/-- Runs a command that is no function. -/
def callKnown (go : Go) (position : Position) (search : Option (List Char)) (name : List Char)
    (operands : List Operand) (state : State) : Result :=
  match callRunning go position (String.ofList name) operands state,
      Builtin.find? name state with
  | some result, _ => result
  | none, some builtin => callBuiltin go builtin operands state
  | none, none =>
      callProgram go position search name (operands.map Operand.text) state

/-- A result in which failures are no longer guarded against. -/
def unguarded (before : State) (result : Result) : Result :=
  (result.1, result.2.setSetting "guarded" (before.has "guarded"))

mutual

/-- Runs a command past the functions, or tells what names stand for.  The fuel bounds how often
such a command is given to another one. -/
def passFunctions (go : Go) (position : Position) :
    Nat → List Operand → State → Result
  | 0, _, state => (.next, state.withStatus 1)
  | fuel + 1, operands, state =>
      let words := operands.map Operand.text
      Builtin.withLetters "command" "pvV" words state fun given rest =>
        let operands := operands.drop (operands.length - rest.length)
        if Builtin.isGiven 'v' given ∨ Builtin.isGiven 'V' given then
          Builtin.describe (Builtin.isGiven 'V' given) rest state
        else
          match operands with
          | [] => (.next, state.withStatus 0)
          | name :: others =>
              let search := if Builtin.isGiven 'p' given then
                  some Program.defaultSearch.toList else none
              let inner := if state.isBash then state else state.setSetting "guarded" true
              unguarded state (callPast go position fuel search name.text others inner)

/-- Runs a command past the functions. -/
def callPast (go : Go) (position : Position) :
    Nat → Option (List Char) → List Char → List Operand → State → Result
  | 0, _, _, _, state => (.next, state.withStatus 1)
  | fuel + 1, search, name, operands, state =>
      match String.ofList name with
      | "command" =>
          if Builtin.isKnown name state then passFunctions go position fuel operands state
          else callKnown go position search name operands state
      | "builtin" =>
          if !state.isBash ∨ !Builtin.isKnown name state then
            callKnown go position search name operands state
          else
            match operands with
            | [] => (.next, state.withStatus 0)
            | first :: rest =>
                let text := first.text
                match text, rest with
                | ['-', '-'], next :: rest =>
                    callPast go position fuel search next.text rest state
                | '-' :: letter :: _, _ =>
                    Builtin.refuseOptions "builtin" (.unknown letter) state
                | _, _ =>
                    if Builtin.isKnown text state then
                      callPast go position fuel search text rest state
                    else
                      (.next, state.fail
                        ("builtin: " ++ toText text ++ ": not a shell builtin") 1)
      | _ => callKnown go position search name operands state

end

/-- Runs a function, a command of the shell or a program. -/
def call (go : Go) (position : Position) (name : List Char) (operands : List Operand)
    (state : State) : Result :=
  match state.functions.lookup name with
  | some definition =>
      callFunction go position name definition (operands.map Operand.text) state
  | none => callPast go position (2 * operands.length + 8) none name operands state

end Evaluation
end Shell
end Snippets
