import Snippets.Shell.Builtin.Basic

/-!
# Leaving scripts, functions and loops

These commands change how the script goes on.
-/

namespace Snippets
namespace Shell
namespace Builtin

/-- The status that an operand gives, a usual one if there is no operand.  One shell takes a
negative number for none. -/
def statusOf (usual : Nat) (operands : List (List Char)) (state : State) : Option Nat :=
  match operands with
  | [] => some usual
  | first :: _ =>
      match toInt? first with
      | some value =>
          if value < 0 ∧ !state.isBash then none else some (value % 256).toNat
      | none => none

/-- Operands without a mark at their start. -/
def withoutMark (arguments : List (List Char)) : List (List Char) :=
  if arguments.head? = some "--".toList then arguments.drop 1 else arguments

/-- Ends the script. -/
def exit : Builtin := ofWords fun arguments state =>
  let operands := if state.isBash then withoutMark arguments else arguments
  let shown := toText (operands.head?.getD [])
  match statusOf (state.statusBefore.getD state.status) operands state with
  | none =>
      if state.isBash then
        (.exit, state.fail ("exit: " ++ shown ++ ": numeric argument required") usage)
      else refuse "exit" ("Illegal number: " ++ shown) usage state
  | some status =>
      if state.isBash ∧ 1 < operands.length then tooMany "exit" state
      else (.exit, state.withStatus status)

/-- Ends the function or the script of a file. -/
def leave : Builtin := ofWords fun arguments state =>
  let operands := if state.isBash then withoutMark arguments else arguments
  let shown := toText (operands.head?.getD [])
  match statusOf state.status operands state with
  | none =>
      if state.isBash then
        let state := state.fail ("return: " ++ shown ++ ": numeric argument required") usage
        (if state.frames.isEmpty then .next else .leave, state)
      else refuse "return" ("Illegal number: " ++ shown) usage state
  | some status =>
      if state.isBash ∧ 1 < operands.length then tooMany "return" state
      else if state.frames.isEmpty then
        if state.isBash then
          refuse "return" "can only \x60return' from a function or sourced script" usage state
        else (.exit, state.withStatus status)
      else (.leave, state.withStatus status)

/-- Leaves as many loops as an operand says, one without it, and at most all. -/
def leaveLoops (name : String) (flow : Nat → Flow) : Builtin := ofWords fun arguments state =>
  let operands := if state.isBash then withoutMark arguments else arguments
  let shown := toText (operands.head?.getD [])
  let count := (operands.head?.map toInt?).getD (some 1)
  let go := fun count : Int =>
    if state.loops = 0 then done 0 state
    else (flow (min count.toNat state.loops), state.withStatus 0)
  match state.dialect, count with
  | .plain, some count =>
      if count ≤ 0 then refuse name ("Illegal number: " ++ shown) usage state else go count
  | .plain, none => refuse name ("Illegal number: " ++ shown) usage state
  | .bash, count =>
      if state.loops = 0 then
        done 0 (state.complain (ofText
          (name ++ ": only meaningful in a \x60for', \x60while', or \x60until' loop")))
      else
        match count with
        | none => (.exit, state.fail (name ++ ": " ++ shown ++ ": numeric argument required") 128)
        | some count =>
            if 1 < operands.length then tooMany name state
            else if count ≤ 0 then
              (.stop state.loops,
                state.fail (name ++ ": " ++ shown ++ ": loop count out of range") 1)
            else go count

end Builtin
end Shell
end Snippets
