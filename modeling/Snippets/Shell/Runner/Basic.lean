import Snippets.Shell.Program

/-!
# Programs that run commands

Such a program is given a way to start other programs.  It changes what they find around
them, decides how often they run, and makes its own status of theirs.
-/

namespace Snippets
namespace Shell

/-- How a program is started by its name and arguments, and waited for. -/
abbrev Start := List (List Char) → State → Flow × State

/-- A program that runs commands: it is given a way to start them, its name and its
arguments. -/
abbrev Runner := Start → List Char → List (List Char) → State → Flow × State

namespace Runner

/-- Ends with a status. -/
def done (status : Nat) (state : State) : Flow × State :=
  (.next, { state.withStatus status with signal := none })

/-- Complains and ends with a status. -/
def fail (name : List Char) (message : String) (status : Nat) (state : State) : Flow × State :=
  done status (state.write 2 (name ++ ": ".toList ++ ofText message ++ ['\n']))

/-- What a tool makes of an invocation that is not changed. -/
def settled (name : List Char) (arguments : List (List Char)) (tool : Tool) (state : State) :
    Flow × State :=
  let invocation := Program.invocationOf name arguments state
  (.next, Program.settle invocation (tool invocation) state)

/-- Reads options up to the first operand, and goes on with them unless they are wrong or ask
what the program does. -/
def withOptions (forms : List String) (failure : Nat) (name : List Char)
    (arguments : List (List Char)) (state : State) (run : Options → Flow × State) :
    Flow × State :=
  let tool : Tool := fun invocation =>
    invocation.withOptions forms false failure invocation.arguments fun _ => invocation.outcome
  match Options.read forms false arguments with
  | .error _ => settled name arguments tool state
  | .ok options =>
      if options.has Options.helpLetter ∨ options.has Options.versionLetter then
        settled name arguments tool state
      else run options

/-- Complains about the use of a program. -/
def misused (name : List Char) (message : String) (status : Nat) (state : State) :
    Flow × State :=
  settled name [] (fun invocation => invocation.misused message status) state

/-- The words for a program that cannot be started, with a status, if it cannot. -/
def startFault? (name : List Char) (state : State) : Option (String × Nat) :=
  match (Program.lookup name state).2 with
  | .file _ => none
  | .directory => some ("Permission denied", 126)
  | .refused => some ("Permission denied", 126)
  | .failed failure => some (lookupMessage failure, if failure = .missing then 127 else 126)

/-- Starts a program, or complains in the given words that it cannot be started. -/
def start (run : Start) (words : List (List Char)) (complaint : String → List Char)
    (state : State) : Flow × State :=
  match words with
  | [] => done 0 state
  | name :: _ =>
      match startFault? name state with
      | none => run words state
      | some (fault, status) => done status (state.write 2 (complaint fault))

/-- The words of a program that says what it failed to run. -/
def failedToRun (name command : List Char) (fault : String) : List Char :=
  name ++ ofText (": failed to run command " ++ curly command ++ ": " ++ fault ++ "\n")

/-- The words of a program that names the command it failed to run. -/
def namedFault (name command : List Char) (fault : String) : List Char :=
  name ++ ofText (": " ++ curly command ++ ": " ++ fault ++ "\n")

/-- A shell with the descriptors of another one. -/
def withStreamsOf (before state : State) : State :=
  { state with descriptors := before.descriptors }

end Runner
end Shell
end Snippets
