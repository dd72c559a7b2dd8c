import Snippets.Shell.Meaning
import Snippets.Shell.Redirecting
import Snippets.Shell.Startup

/-!
# What a shell does

A shell runs commands, texts and programs.  Each of them changes its state and says how the
script goes on.  Running one thing may need others to be run, which is done by a function
that every part of the evaluation is given.
-/

namespace Snippets
namespace Shell
namespace Evaluation

/-- How a script goes on, and the state after a command. -/
abbrev Result := Flow × State

/-- What is known about the place of a command. -/
structure Position where
  /-- Whether its failure is taken into account. -/
  tested : Bool
  /-- Whether the shell has nothing to do after it. -/
  isLast : Bool
  deriving DecidableEq, Repr

namespace Position

/-- The place of a script that is run for itself. -/
def plain : Position := ⟨false, false⟩

/-- The place of a command that decides how another one goes on. -/
def condition : Position := ⟨true, false⟩

/-- The place of a command after which there is more to do. -/
def inner (position : Position) : Position :=
  { position with isLast := false }

end Position

/-- Where the text of a script comes from. -/
inductive Origin where
  /-- From the start of the shell. -/
  | start
  /-- From the arguments of a command. -/
  | arguments
  /-- From a file that a command names. -/
  | file
  /-- From a trap. -/
  | trap
  /-- From a word. -/
  | word
  deriving DecidableEq, Repr

/-- What can be run. -/
inductive Activity where
  /-- A command. -/
  | command (position : Position) (command : Command)
  /-- The commands of a text. -/
  | text (position : Position) (origin : Origin) (script : List Char)
  /-- A program by its name, with its arguments, which is waited for. -/
  | program (words : List (List Char))

/-- How things are run. -/
abbrev Go := Activity → State → Result

/-- The signal that ends a command whose time is over. -/
def killSignal : Nat := 9

/-- The microseconds that a command takes which starts no program. -/
def stepCost : Nat := 10

/-- Lets the time of a command pass that starts no program. -/
def step (state : State) : State :=
  state.wait stepCost

/-- Goes on with the next command unless the time is over. -/
def settle (result : Result) : Result :=
  if result.2.world.isLate then (.ended killSignal, result.2) else result

/-- Goes on after a command that has ended in the usual way. -/
def andThen (result : Result) (next : State → Result) : Result :=
  match result with
  | (.next, state) => next state
  | other => other

/-- Goes on after an expansion, or ends what its failure ends. -/
def expanded {α : Type} (found : Except Expansion.Halt (α × State)) (next : α → State → Result) :
    Result :=
  match found with
  | .ok (value, state) => next value state
  | .error halt => Builtin.stopped halt

/-- Sets the status of a command that is a pipeline by itself. -/
def single (result : Result) : Result :=
  (result.1, { result.2 with statuses := [result.2.status] })

end Evaluation
end Shell
end Snippets
