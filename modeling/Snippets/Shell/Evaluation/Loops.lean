import Snippets.Shell.Evaluation.Tests
import Snippets.Shell.Builtin.Input

/-!
# Loops and choices

A body may be run again and again, once for each of some words, or for the choices that are read
from standard input.  A choice runs the body of the first pattern that a word matches.
-/

namespace Snippets
namespace Shell
namespace Evaluation

/-- The number of turns of a loop. -/
def mostTurns : Nat := 1000000000

/-- Leaves one loop. -/
def leaveLoop (result : Result) : Result :=
  match result.1 with
  | .stop (count + 2) => (.stop (count + 1), result.2)
  | .again (count + 2) => (.again (count + 1), result.2)
  | .stop _ => (.next, result.2)
  | .again _ => (.next, result.2)
  | _ => result

/-- Whether a loop goes on after a turn. -/
def goesOn : Flow → Bool
  | .next => true
  | .again count => count ≤ 1
  | _ => false

/-- Runs a loop in which one more can be left, and which starts with the status zero. -/
def inLoop (state : State) (run : State → Result) : Result :=
  let (flow, after) := run { state with loops := state.loops + 1 }
  (flow, { after with loops := state.loops })

/-- Runs a body as long as a condition holds, or until it does.  The status is that of the last
body, zero if there was none. -/
def runWhile (go : Go) (position : Position) (opposite : Bool) (condition body : Command) :
    Nat → Nat → State → Result
  | 0, _, state => (.ended killSignal, state)
  | fuel + 1, status, state =>
      match go (.command .condition condition) (step state) with
      | (.next, state) =>
          if (state.status == 0) == opposite then (.next, state.withStatus status)
          else
            let (flow, state) := settle (go (.command position.inner body) state)
            if goesOn flow then
              runWhile go position opposite condition body fuel state.status state
            else leaveLoop (flow, state)
      | result => leaveLoop result

/-- Whether an expression says that a loop goes on, which no expression does, too. -/
def holdsNext (go : Go) (condition : Word) (state : State) : Except Result (Bool × State) :=
  if condition.text.all fun octet => octet = ' ' then .ok (true, state)
  else (valueOf go condition state).map fun (value, state) => (value != 0, state)

/-- Runs a body as long as an expression is not zero. -/
def runCounted (go : Go) (position : Position) (condition next : Word) (body : Command) :
    Nat → Nat → State → Result
  | 0, _, state => (.ended killSignal, state)
  | fuel + 1, status, state =>
      match holdsNext go condition (step state) with
      | .error result => result
      | .ok (false, state) => (.next, state.withStatus status)
      | .ok (true, state) =>
          let (flow, state) := settle (go (.command position.inner body) state)
          if goesOn flow then
            match holdsNext go next state with
            | .error result => result
            | .ok (_, after) =>
                runCounted go position condition next body fuel state.status after
          else leaveLoop (flow, state)

/-- Runs a loop that starts with an expression. -/
def startCounted (go : Go) (position : Position) (start condition next : Word) (body : Command)
    (state : State) : Result :=
  match holdsNext go start state with
  | .error result => result
  | .ok (_, state) =>
      inLoop state (runCounted go position condition next body mostTurns 0)

/-- Gives a value to the name of a loop.  One shell ends the loop if the name does not take it. -/
def giveTurn (name value : List Char) (state : State) (next : State → Result) : Result :=
  match Expansion.assign name none false value state with
  | .ok ((), state) => next state
  | .error (stop, state) =>
      if state.isBash then (.next, state.withStatus 1) else Builtin.stopped (stop, state)

/-- Runs a body for each of some values. -/
def runEach (go : Go) (position : Position) (told name : List Char) (line : Nat)
    (body : Command) : List (List Char) → State → Result
  | [], state => (.next, state)
  | value :: rest, state =>
      let state := { state with line := line }
      let state := if state.isBash then trace go told state else state
      match runOccasion go "DEBUG" state with
      | (.next, state) =>
          let result := giveTurn name value state fun state =>
            settle (go (.command position.inner body) state)
          let isTaken := (state.isBash && result.1 = .next && result.2.status = 1 &&
            (result.2.binding? name).any fun entry => entry.traits.readonly)
          if isTaken then result
          else if goesOn result.1 then runEach go position told name line body rest result.2
          else leaveLoop result
      | result => result

/-- The values of a loop over words, or over the arguments. -/
def loopValues (go : Go) (words : Option (List Word)) (state : State) :
    Except Expansion.Halt (List (List Char) × State) :=
  match words with
  | none => .ok (state.arguments, state)
  | some words => Expansion.fields (running go) words state

/-- The start of a loop over words as it is told. -/
def toldLoop (keyword : String) (name : List Char) (words : Option (List Word)) : List Char :=
  let list := match words with
    | some words => Printing.words words
    | none => "\"$@\"".toList
  keyword.toList ++ ' ' :: name ++ " in ".toList ++ list

/-- Runs a loop over words. -/
def startEach (go : Go) (position : Position) (line : Nat) (name : List Char)
    (words : Option (List Word)) (body : Command) (state : State) : Result :=
  expanded (loopValues go words state) fun values state =>
    let state := if values.isEmpty then state.withStatus 0 else state
    inLoop state (runEach go position (toldLoop "for" name words) name line body values)

/-- The number of columns of a line. -/
def screenWidth (state : State) : Nat :=
  match (state.value? "COLUMNS".toList).bind toNat? with
  | some 0 | none => 80
  | some width => width

/-- Spaces and tabs from a column to another one.  The fuel bounds their number. -/
def indentation : Nat → Nat → Nat → List Char
  | 0, _, _ => []
  | fuel + 1, start, stop =>
      if stop ≤ start then []
      else if start / 8 < stop / 8 then '\t' :: indentation fuel (start + 8 - start % 8) stop
      else ' ' :: indentation fuel (start + 1) stop

/-- The choices of a menu with their numbers, in columns. -/
def menu (state : State) (choices : List (List Char)) : List Char :=
  let count := choices.length
  let digits := fun number : Nat => (ofNat number).length
  let longest := (choices.map fun choice => (characters choice).length).foldl max 0
  let width := longest + digits count + 4
  let columns := max 1 (screenWidth state / width)
  let rows := max 1 ((count + columns - 1) / columns)
  let columns := (count + rows - 1) / rows
  let (rows, columns) := if rows = 1 then (columns, 1) else (rows, columns)
  let cell := fun (row column : Nat) =>
    let index := row + column * rows
    match choices[index]? with
    | none => ([] : List Char)
    | some choice =>
        let size := if column = 0 then digits rows else digits count
        let number := ofNat (index + 1)
        let text := List.replicate (size - number.length) ' ' ++ number ++ ") ".toList ++ choice
        let used := column * width + size + 2 + (characters choice).length
        if index + rows < count then
          text ++ indentation width used ((column + 1) * width)
        else text
  (List.range rows).flatMap fun row : Nat =>
    ((List.range columns).flatMap fun column : Nat => cell row column) ++ ['\n']

/-- The choice that an answer stands for, which is empty if it stands for none. -/
def chosen (choices : List (List Char)) (answer : List Char) : List Char :=
  match toNat? answer with
  | some (number + 1) => (choices[number]?).getD []
  | _ => []

/-- Reads an answer; the menu is shown again after an empty one.  The fuel bounds their
number. -/
def readAnswer (go : Go) (choices : List (List Char)) :
    Nat → Bool → State → Option (List Char) × State
  | 0, _, state => (none, state)
  | fuel + 1, showsMenu, state =>
      let state := if showsMenu then state.write 2 (menu state choices) else state
      let prompt := (state.value? "PS3".toList).getD "#? ".toList
      let state := state.write 2 prompt
      let (_, state) := Builtin.read (running go) [] state
      if state.status ≠ 0 then (none, state.write 1 ['\n'])
      else
        match (state.value? "REPLY".toList).getD [] with
        | [] => readAnswer go choices fuel true state
        | answer => (some answer, state)

/-- Runs a body for each choice that is read. -/
def runSelect (go : Go) (position : Position) (told name : List Char) (line : Nat)
    (choices : List (List Char)) (body : Command) : Nat → Bool → State → Result
  | 0, _, state => (.ended killSignal, state)
  | fuel + 1, showsMenu, state =>
      let state := { state with line := line }
      let (answer, state) := readAnswer go choices mostTurns showsMenu state
      match answer with
      | none => (.next, state.withStatus 1)
      | some answer =>
          let (flow, state) := giveTurn name (chosen choices answer) state fun state =>
            settle (go (.command position.inner body) (step state))
          if goesOn flow then
            let asksAgain := ((state.value? "REPLY".toList).getD []).isEmpty
            runSelect go position told name line choices body fuel asksAgain state
          else leaveLoop (flow, state)

/-- Runs a loop over choices. -/
def startSelect (go : Go) (position : Position) (line : Nat) (name : List Char)
    (words : Option (List Word)) (body : Command) (state : State) : Result :=
  expanded (loopValues go words state) fun choices state =>
    if choices.isEmpty then (.next, state.withStatus 0)
    else
      let told := toldLoop "select" name words
      let state := trace go told state
      inLoop state (runSelect go position told name line choices body mostTurns true)

/-- Whether a value matches one of some patterns. -/
def matchesAny (go : Go) (value : List Char) :
    List Word → State → Except Expansion.Halt (Bool × State)
  | [], state => .ok (false, state)
  | word :: rest, state =>
      (Expansion.patternOf (running go) word state).bind fun (pattern, state) =>
        if Pattern.isMatch (Expansion.style state) pattern (Expansion.decode state value) then
          .ok (true, state)
        else matchesAny go value rest state

/-- How the cases of a choice are tried. -/
inductive Trying where
  /-- No body has run. -/
  | first
  /-- The next body runs, whatever its patterns are. -/
  | decided
  /-- A body has run, and the next patterns are tried. -/
  | again
  deriving DecidableEq

/-- Runs the body of the first case that a value matches, and those that it leads to.  The status
is zero if there is none. -/
def runCases (go : Go) (position : Position) (value : List Char) :
    Trying → List (List Word × Command × Ending) → State → Result
  | trying, [], state => (.next, if trying = .first then state.withStatus 0 else state)
  | trying, (patterns, body, ending) :: rest, state =>
      let found := if trying = .decided then .ok (true, state)
        else matchesAny go value patterns state
      match found with
      | .error halt => Builtin.stopped halt
      | .ok (false, state) => runCases go position value trying rest state
      | .ok (true, state) =>
          let isEmpty : Bool := match body with
            | .sequence [] => true
            | _ => false
          let state := if isEmpty then state.withStatus 0 else state
          match ending with
          | .stop => go (.command position body) state
          | .fallThrough =>
              andThen (go (.command position.inner body) state)
                (runCases go position value .decided rest)
          | .goOn =>
              andThen (go (.command position.inner body) state)
                (runCases go position value .again rest)

/-- Runs a choice. -/
def startChoice (go : Go) (position : Position) (word : Word)
    (cases : List (List Word × Command × Ending)) (state : State) : Result :=
  let state := if state.isBash then
      trace go ("case ".toList ++ word.text ++ " in".toList) state
    else state
  andThen (runOccasion go "DEBUG" state) fun state =>
    expanded (Expansion.text (running go) word state) fun value state =>
      runCases go position value .first cases state

end Evaluation
end Shell
end Snippets
