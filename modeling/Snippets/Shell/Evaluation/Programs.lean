import Snippets.Shell.Evaluation.Texts
import Snippets.Shell.Runner.Find
import Snippets.Shell.Runner.Operands
import Snippets.Shell.Runner.Surroundings

/-!
# Starting programs

The file of a program holds one that is known here, or a script, whose first line may name the
program that runs it.
-/

namespace Snippets
namespace Shell
namespace Evaluation

/-- Runs the script that a variable names before the script of a shell. -/
def runBefore (go : Go) (state : State) : Result :=
  match state.value? "BASH_ENV".toList with
  | some (first :: rest) =>
      if !state.isBash ∨ state.has "posix" then (.next, state)
      else
        let text := first :: rest
        let parts := (Script.textParts? (state.reading []) text).getD [.quoted text]
        expanded (Expansion.textPieces (running go)
          (Expansion.expandTilde state parts) state) fun found state =>
            let path := Expansion.join found
            match state.node? path with
            | some (.file content _) =>
                let (flow, after) := go (.text .plain .file (ofBytes content))
                  { state with source := path }
                (flow, { after with source := state.source, linesRead := 0, line := 1 })
            | _ => (.next, state)
  | _ => (.next, state)

/-- Whether a content is none that a shell reads. -/
def isBinary (content : List Char) : Bool :=
  ((content.take 80).takeWhile (· != '\n')).contains '\x00'

/-- Runs the script of a file in a shell that was started under a name. -/
def runFile (go : Go) (name path : List Char) (state : State) : Result :=
  let refuse := fun (words : List Char) (status : Nat) =>
    (Flow.exit, (state.write 2 (words ++ ['\n'])).withStatus status)
  match state.node? path with
  | some (.file content _) =>
      let script := ofBytes content
      if state.isBash ∧ isBinary script then
        refuse (path ++ ": ".toList ++ path ++ ": cannot execute binary file".toList) 126
      else andThen (runBefore go state) (go (.text .plain .start script))
  | some (.unreadable failure _) =>
      if state.isBash then
        refuse (path ++ ": ".toList ++ path ++ ofText (": " ++ failure.words)) 126
      else
        refuse (name ++ ": 0: cannot open ".toList ++ path ++ ofText (": " ++ failure.words))
          Builtin.usage
  | some _ =>
      if state.isBash then
        refuse (path ++ ": ".toList ++ path ++ ": Is a directory".toList) 126
      else (.exit, state.withStatus 0)
  | none =>
      let failure : LookupFailure := match state.locate path with
        | .error failure => failure
        | .ok _ => .missing
      if state.isBash then
        refuse (name ++ ": ".toList ++ path ++ ofText (": " ++ lookupMessage failure)) 127
      else
        let words := if failure = .missing then "No such file" else lookupMessage failure
        refuse (name ++ ": 0: cannot open ".toList ++ path ++ ofText (": " ++ words))
          Builtin.usage

/-- Carries out the task of a shell that was started under a name, to its end. -/
def runTask (go : Go) (name : List Char) (task : Task) (state : State) : Result :=
  finish go (match task with
    | .text script =>
        -- Only the shell with the extensions lets a last program take its place.
        andThen (runBefore go state) (go (.text ⟨false, state.isBash⟩ .start script))
    | .input => andThen (runBefore go state) (runStandardInput go)
    | .file path => runFile go name path state)

/-- Starts a shell and waits for its end. -/
def startShell (go : Go) (dialect : Dialect) (name : List Char) (arguments : List (List Char))
    (state : State) : Result :=
  match Startup.readTask arguments (Startup.newShell dialect name state) with
  | .error stopped => afterCopy state (.exit, stopped)
  | .ok (task, shell) => afterCopy state (runTask go name task shell)

/-- The programs that run others. -/
def runners : List (String × Runner) :=
  [("env", Runner.env 8), ("find", Runner.find), ("nice", Runner.nice), ("nohup", Runner.nohup),
   ("setsid", Runner.setsid), ("stdbuf", Runner.stdbuf), ("timeout", Runner.timeout),
   ("which", Runner.which), ("xargs", Runner.xargs)]

/-- Starts a program that is known. -/
def startKnown (go : Go) (program : String) (name : List Char) (arguments : List (List Char))
    (state : State) : Result :=
  let state := { state with signal := none }
  match Program.tools.lookup program, runners.lookup program with
  | some tool, _ => (.next, Program.invoke tool name arguments state)
  | none, some runner =>
      let (flow, after) := runner (fun words state => go (.program words) state) name arguments
        state.asProgram
      let state := { state with
        world := after.world, nextIdentity := after.nextIdentity, status := after.status
        signal := after.signal }
      (if state.world.isLate then flow else .next, state)
  | none, none =>
      let dialect := if program = "bash" ∨ program = "rbash" then Dialect.bash else .plain
      startShell go dialect name arguments state

/-- The program that the first line of a script names, with an argument if there is one. -/
def interpreter? (content : List Char) : Option (List (List Char)) :=
  match content with
  | '#' :: '!' :: rest =>
      let isBlank := fun octet : Char => octet = ' ' || octet = '\t'
      let line := (rest.takeWhile (· != '\n')).dropWhile isBlank
      let program := line.takeWhile fun octet => !isBlank octet
      let argument := (line.drop program.length).dropWhile isBlank
      let argument := (argument.reverse.dropWhile isBlank).reverse
      if program.isEmpty then none
      else some (program :: if argument.isEmpty then [] else [argument])
  | _ => none

/-- Starts the program in a file that was found at a path.  The fuel bounds how often a script
names another one as its program. -/
def startFile (go : Go) :
    Nat → List Char → List String → List Char → List (List Char) → State → Result
  | 0, _, _, _, _, state => (.next, state.withStatus 126)
  | fuel + 1, path, names, name, arguments, state =>
      let content := State.fileContent names state.world.tree
      let state := { state with program := some path }
      match Program.nameOf? (toBytes (content.take 64)), interpreter? content with
      | some program, _ => startKnown go program name arguments state
      | none, some (interpreter :: more) =>
          match Program.atPath state.world.tree state.directory interpreter with
          | .file inner =>
              startFile go fuel interpreter inner interpreter (more ++ path :: arguments) state
          | .failed _ =>
              if state.isBash then
                (.next, state.fail
                  (toText path ++ ": cannot execute: required file not found") 127)
              else (.next, state.fail (toText name ++ ": not found") 127)
          | _ =>
              if state.isBash then
                (.next, state.fail
                  (toText path ++ ": " ++ toText interpreter ++
                    ": bad interpreter: Permission denied") 126)
              else (.next, state.fail (toText name ++ ": Permission denied") 126)
      | none, _ =>
          if state.isBash ∧ isBinary content then
            (.next, state.fail
              (toText path ++ ": cannot execute binary file: Exec format error") 126)
          else
            let shell := if state.isBash then state.name else "/bin/sh".toList
            startShell go state.dialect shell (path :: arguments) state

/-- How often a script may name another one as its program. -/
def mostInterpreters : Nat := 5

/-- The words for a command that is not found, and its status. -/
def missingWords (name path : List Char) (found : Program.Found) (state : State) :
    List Char × Nat :=
  let said := fun (text : List Char) (words : String) (status : Nat) =>
    (text ++ ofText (": " ++ words), status)
  match state.dialect, found with
  | .bash, .failed .missing =>
      if name.contains '/' then said name "No such file or directory" 127
      else said name "command not found" 127
  | .bash, .failed failure => said name (lookupMessage failure) 126
  | .bash, .directory => said name "Is a directory" 126
  | .bash, _ => said path "Permission denied" 126
  | .plain, .failed _ =>
      if name.isEmpty then said name "Permission denied" 127 else said name "not found" 127
  | .plain, _ => said name "Permission denied" 126

/-- Starts what has been found under a name, or says that nothing was. -/
def startFound (go : Go) (name : List Char) (arguments : List (List Char))
    (path : List Char) (found : Program.Found) (state : State) : Result :=
  match found with
  | .file names => startFile go mostInterpreters path names name arguments state
  | found =>
      let (words, status) := missingWords name path found state
      (.next, (state.complain words).withStatus status)

/-- Starts a program by its name and waits for it. -/
def startProgram (go : Go) (words : List (List Char)) (state : State) : Result :=
  match words with
  | [] => (.next, state.withStatus 0)
  | name :: arguments =>
      let (path, found) := Program.lookup name state
      startFound go name arguments path found state

end Evaluation
end Shell
end Snippets
