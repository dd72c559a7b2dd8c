import Snippets.Shell.Builtin.Basic

/-!
# Printing and testing

These commands print, test conditions and evaluate expressions.
-/

namespace Snippets
namespace Shell
namespace Builtin

/-- Does nothing, with a status. -/
def constant (status : Nat) : Builtin := fun _ _ state =>
  done status state

/-- Prints operands with spaces between them. -/
def echo : Builtin := ofWords fun arguments state =>
  printBy "echo" (Print.echo (.shell state.dialect) (state.has "xpg_echo") arguments) 0 state

/-- The time zone of a shell. -/
def zoneOf (state : State) : Zone :=
  ((state.value? "TZ".toList).map Zone.ofText).getD .universal

/-- Prints operands in a format, or makes a variable of what would be printed. -/
def printf : Builtin := fun running operands state =>
  let arguments := operands.map Operand.text
  withLetters "printf" (if state.isBash then "v:" else "") arguments state fun given rest =>
    match rest with
    | [] =>
        if state.isBash then misused "printf" state
        else refuse "printf" "usage: printf format [arg ...]" usage state
    | format :: values =>
        let setting : Print.Setting :=
          ⟨.shell state.dialect, state.world.clock, state.secondsFrom * 1000000, zoneOf state⟩
        let printed := Print.printf setting format values
        let state := printed.complaints.reverse.foldl
          (fun state words => state.complain (ofText ("printf: " ++ words))) state
        match valueOf? 'v' given with
        | none => printBy "printf" printed.text printed.status state
        | some name =>
            match target? running name state with
            | some ((name, key), state) =>
                settled printed.status (give "printf" name key printed.text state)
            | none =>
                let (flow, state) := wrongName "printf" name state
                (flow, state.withStatus usage)

/-- The facts that conditions of a shell ask about. -/
def factsOf (running : Expansion.Running) (state : State) : Condition.Facts :=
  { Condition.Facts.ofFiles state.world.tree state.directory with
    isSet := fun text =>
      let (name, subscript) := Expansion.splitName text
      match subscript with
      | none =>
          match toNat? name with
          | some number => number ≤ state.arguments.length
          | none => (state.value? name).isSome
      | some ['@'] => !(state.content name).texts.isEmpty
      | some ['*'] => !(state.content name).texts.isEmpty
      | some key =>
          let expand := Expansion.textPieces running
          match Expansion.keyOf expand name key state with
          | .ok (key, state) => (Expansion.elementAt (state.content name) key).isSome
          | .error _ => false
    isOn := fun text => state.has (String.ofList text) }

/-- Tests a condition. -/
def test (name : String) : Builtin := fun running operands state =>
  let words := operands.map Operand.text
  let reader : Condition.Reader := if state.isBash then .bash else .plain
  match Condition.ofCommand reader (factsOf running state) (name = "[") words with
  | .ok holds => done (if holds then 0 else 1) state
  | .error fault =>
      (.next, state.fail (name ++ ": " ++ Condition.Fault.message reader fault) usage)

/-- How a command goes on whose expression has no value. -/
def troubled (name : String) (trouble : Arithmetic.Trouble) (state : State) : Flow × State :=
  match trouble with
  | .wrong message =>
      (.next, (state.complain (ofText (name ++ ": ") ++ message)).withStatus 1)
  | .readonly message => (.next, (state.complain message).withStatus 1)
  | .inside message => stopped (.command, state.complain message)
  | .ending message => stopped (.script, state.complain message)

/-- Evaluates expressions. -/
def evaluate : Builtin := ofWords fun arguments state =>
  if arguments.isEmpty then refuse "let" "expression expected" 1 state
  else
    arguments.foldl
      (fun (result : Flow × State) text =>
        let (flow, state) := result
        if flow ≠ .next then result
        else
          match Arithmetic.valueOfText text state with
          | .ok (value, state) => done (if value = 0 then 1 else 0) state
          | .error (trouble, state) => troubled "let" trouble state)
      (.next, state)

/-- Tells how much time has been used. -/
def times : Builtin := fun _ _ state =>
  let line := if state.isBash then "0m0.000s 0m0.000s\n" else "0m0.000000s 0m0.000000s\n"
  print (line ++ line).toList state

/-- Tells how commands of the shell are used. -/
def help : Builtin := ofWords fun arguments state =>
  arguments.foldl
    (fun (result : Flow × State) text =>
      let state := result.2
      let name := toText text
      if usageOf name = name then
        (.next, state.fail ("help: no help topics match " ++ shown text ++
          ".  Try \x60help help' or \x60man -k " ++ name ++ "' or \x60info " ++ name ++ "'.") 1)
      else (.next, state.write 1 (ofText (name ++ ": " ++ usageOf name ++ "\n"))))
    (.next, state.withStatus 0)

end Builtin
end Shell
end Snippets
