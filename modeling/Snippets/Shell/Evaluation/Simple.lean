import Snippets.Shell.Evaluation.Calls
import Snippets.Shell.Evaluation.Redirections
import Snippets.Shell.Evaluation.Tracing

/-!
# Simple commands

A simple command is a row of values for names, words and redirections.  The words are expanded
first.  Without words the values stay; otherwise they are there for the command alone.
-/

namespace Snippets
namespace Shell
namespace Evaluation

/-- The operands that an argument becomes. -/
def operandsOf (go : Go) (argument : Argument) (state : State) :
    Except Expansion.Halt (List Operand × State) :=
  match argument with
  | .word word =>
      (Expansion.fields (running go) [word] state).map fun (texts, state) =>
        (texts.map Operand.word, state)
  | .assignment assignment =>
      match assignment.given with
      | .one word =>
          (Expansion.valueText (running go) word state).map fun (text, state) =>
            ([.value assignment.name assignment.subscript assignment.append text], state)
      | .many elements => .ok ([.list assignment.name assignment.append elements], state)

/-- The operands that arguments become, after those found, which are in reverse. -/
def allOperands (go : Go) (found : List (List Operand)) :
    List Argument → State → Except Expansion.Halt (List Operand × State)
  | [], state => .ok (found.reverse.flatten, state)
  | argument :: rest, state =>
      (operandsOf go argument state).bind fun (operands, state) =>
        allOperands go (operands :: found) rest state

/-- The start of a value for a name, up to the sign between them. -/
def assignmentStart (assignment : Assignment) : List Char :=
  assignment.name ++
    (match assignment.subscript with
      | some key => '[' :: key ++ [']']
      | none => []) ++
    (if assignment.append then ['+', '='] else ['='])

/-- Gives a value to a name for good. -/
def assignOne (go : Go) (assignment : Assignment) (state : State) :
    Except Expansion.Halt State := do
  let name := assignment.name
  match assignment.given with
  | .one word =>
      let (value, state) ← Expansion.valueText (running go) word state
      let state := traceValue go (assignmentStart assignment) value state
      let (key, state) : Option (List Char) × State ← match assignment.subscript with
        | none => pure (none, state)
        | some text => do
            let expand := Expansion.textPieces (running go)
            let (key, state) ← Expansion.keyOf expand name text state
            pure (some key, state)
      let ((), state) ← Expansion.assign name key assignment.append value state
      return state
  | .many elements =>
      let state := trace go (Printing.assignment assignment) state
      let (items, state) ← Expansion.items (running go) name elements state
      let ((), state) ← Expansion.assignItems name assignment.append items state
      return state

/-- Gives values to names for good, one after the other. -/
def assignAll (go : Go) : List Assignment → State → Except Expansion.Halt State
  | [], state => .ok state
  | assignment :: rest, state => (assignOne go assignment state).bind (assignAll go rest)

/-- Gives a value to a name for one command.  One shell goes on without a value that the name does
not take. -/
def assignForCommand (go : Go) (assignment : Assignment) (state : State) :
    Except Expansion.Halt State := do
  let name := assignment.name
  match assignment.given with
  | .many _ => return state
  | .one word =>
      let (value, state) ← Expansion.valueText (running go) word state
      let value := if assignment.append then (state.value? name).getD [] ++ value else value
      let entry := state.binding? name
      if entry.any fun entry => entry.traits.readonly then
        if state.isBash then
          return state.complain (name ++ ": readonly variable".toList)
        else throw (.script, state.complain (name ++ ": is read only".toList))
      else
        let state := if state.isBash then traceValue go (name ++ ['=']) value state else state
        let given : Variable := ⟨name, .single value, { Traits.none with exported := true }⟩
        return { state.restore name (some given) with
          temporaries := name :: state.temporaries }

/-- Gives values to names for one command, one after the other. -/
def assignAllForCommand (go : Go) : List Assignment → State → Except Expansion.Halt State
  | [], state => .ok state
  | assignment :: rest, state =>
      (assignForCommand go assignment state).bind (assignAllForCommand go rest)

/-- Whether a command is one whose redirections stay. -/
def keepsRedirections (state : State) : List (List Char) → Bool
  | ['e', 'x', 'e', 'c'] :: rest =>
      (state.functions.lookup "exec".toList).isNone && (rest.isEmpty || rest == ["--".toList])
  | ['c', 'o', 'm', 'm', 'a', 'n', 'd'] :: rest => keepsRedirections state rest
  | ['b', 'u', 'i', 'l', 't', 'i', 'n'] :: rest => state.isBash && keepsRedirections state rest
  | _ => false

/-- Runs values for names, and redirections that nothing uses. -/
def runAssignments (go : Go) (assignments : List Assignment) (redirections : List Redirection)
    (state : State) : Result :=
  match assignAll go assignments state with
  | .error halt => Builtin.stopped halt
  | .ok state =>
      redirected go redirections id state fun state =>
        (.next, step (state.withStatus (state.lastSubstitution.getD 0)))

/-- The texts of values for one command, as the plain shell tells them. -/
def toldValues (assignments : List Assignment) (state : State) : List (List Char) :=
  assignments.map fun assignment =>
    assignment.name ++ '=' :: (state.value? assignment.name).getD []

/-- What is left after a command has been called: its values and descriptors are gone. -/
def afterCall (go : Go) (position : Position) (before : State)
    (saved : List (List Char × Option Variable)) (isKept : Bool) (result : Result) : Result :=
  let (flow, after) := result
  let after := saved.foldl (fun state entry => state.restore entry.1 entry.2) after
  let after := { after with temporaries := before.temporaries }
  let after := if isKept then
      { after with listeners := after.listeners ++ before.listeners }
    else
      let after := drainListeners go { after with descriptors := before.descriptors }
      { after with listeners := before.listeners }
  match flow, after.signal with
  | .next, some signal =>
      let isReplaced := position.isLast && after.traps.all fun trap => trap.2.isEmpty
      if isReplaced then (.ended signal, after) else (.next, tellEnd after)
  | flow, _ => (flow, after)

/-- Tells a command and the values for it, where that is wanted, on the descriptors that the shell
has outside of the command. -/
def traceCall (go : Go) (assignments : List Assignment) (words : List (List Char))
    (before ready : State) : State :=
  if !ready.has "xtrace" then ready
  else
    let outside := { ready with descriptors := before.descriptors }
    let told := if ready.isBash then traceCommand go words outside
      else trace go ([' '].intercalate (toldValues assignments ready ++ words)) outside
    { told with descriptors := ready.descriptors }

/-- Gives the values for a command.  In the plain shell they stay after some commands. -/
def giveForCall (go : Go) (stays : Bool) (assignments : List Assignment) (state : State) :
    Except Expansion.Halt State :=
  if stays then assignAll go assignments state else assignAllForCommand go assignments state

/-- Runs a command by its name and operands. -/
def runCall (go : Go) (position : Position) (assignments : List Assignment) (name : List Char)
    (operands : List Operand) (redirections : List Redirection) (before : State) : Result :=
  let words := name :: operands.map Operand.text
  let isFunction := (before.functions.lookup name).isSome
  let isSpecial := !before.isBash && !isFunction &&
    Builtin.specialNames.contains (String.ofList name)
  match openAll go redirections { before with listeners := [] } with
  | .error failure =>
      let (flow, after) := refuseOpening before isSpecial failure
      (flow, { after with listeners := before.listeners })
  | .ok opened =>
      let saved := if isSpecial then [] else assignments.map fun assignment =>
        (assignment.name, opened.bindings.find? fun entry => entry.name = assignment.name)
      let stays := isSpecial && name != "exec".toList
      match giveForCall go stays assignments opened with
      | .error (stop, state) =>
          Builtin.stopped (stop, { state with
            descriptors := before.descriptors, listeners := before.listeners })
      | .ok ready =>
          let ready := traceCall go assignments words before ready
          let isKept := keepsRedirections before words
          let result := if isKept then (Flow.next, (step ready).withStatus 0)
            else call go position name operands ready
          afterCall go position before saved isKept result

/-- Runs a simple command. -/
def runSimple (go : Go) (position : Position) (line : Nat) (assignments : List Assignment)
    (arguments : List Argument) (redirections : List Redirection) (state : State) : Result :=
  let command := Command.simple line assignments arguments redirections
  let state := { state with
    line := line, command := some command, lastSubstitution := none, signal := none }
  andThen (runOccasion go "DEBUG" state) fun state =>
    expanded (allOperands go [] arguments state) fun operands state =>
      let result := match operands with
        | [] => runAssignments go assignments redirections state
        | first :: rest =>
            let name := first.text
            let (flow, after) := runCall go position assignments name rest redirections state
            let last := (rest.getLast?.map Operand.text).getD name
            (flow, { after with lastArgument := last })
      single result

end Evaluation
end Shell
end Snippets
