import Snippets.Block
import Snippets.Config.Basic
import Snippets.Execution.Session
import Snippets.Language

/-!
# Executors

An executor runs blocks, each as one program.  In file mode the code is put into a
temporary file, on which the runner's command is run; in shell mode the code is sent to
a session as one compound command.  Code in a language other than the shell's is sent as
the runner's command on a temporary file, which the same compound command removes.
-/

namespace Snippets

/-- How an executor runs blocks. -/
inductive Engine where
  /-- Each block in a process of its own. -/
  | file
  /-- All blocks in one session. -/
  | shell (session : Session)
  deriving DecidableEq, Repr

namespace Engine

/-- The engine for a way to run blocks. -/
def ofMode (mode : RunMode) (shell : String) : Engine :=
  match mode with
  | .file => file
  | .shell => Engine.shell (Session.ofShell shell)

/-- The way in which an engine runs blocks. -/
def mode : Engine → RunMode
  | file => .file
  | shell _ => .shell

end Engine

/-- What runs blocks. -/
structure Executor where
  /-- The runners. -/
  runners : Registry
  /-- How blocks are run. -/
  engine : Engine
  /-- The time that a block has in file mode. -/
  limit : Option Seconds
  /-- Whether the executor has been closed. -/
  closed : Bool
  /-- The configuration that the executor was made from. -/
  config : Option Config
  deriving DecidableEq

/-- What is known after a run. -/
structure RunResult where
  /-- The command line, or the text that was sent to the session. -/
  command : String
  /-- The status of the command.  That of a text sent to a session is not known. -/
  status : Option Int
  deriving DecidableEq, Repr

namespace RunResult

/-- Whether the command is known to have ended well. -/
def succeeded (result : RunResult) : Bool :=
  result.status == some 0

end RunResult

/-- Why a block was not run to its end. -/
inductive RunFailure where
  /-- The executor is closed. -/
  | closed
  /-- There is no runner for the language. -/
  | noRunner (language : String) (available : List String)
  /-- The time was over. -/
  | timedOut (limit : Seconds) (command : String)
  /-- The command could not be started. -/
  | notStarted (command reason : String)
  /-- There is no such shell. -/
  | shellMissing (name : String)
  /-- The shell did not take the text. -/
  | shellGone (reason : String)
  /-- The host failed in a way that is not expected. -/
  | host (failure : HostFailure)
  deriving DecidableEq, Repr

namespace RunFailure

/-- The message for a failure, if the failure is one of the documented ones. -/
def message? : RunFailure → Option String
  | closed => some "Executor is closed"
  | noRunner language available =>
      some ("No runner for language '" ++ language ++ "'. Available: " ++
        ", ".intercalate available)
  | timedOut limit command =>
      some ("Block timed out after " ++ limit.text ++ "s: " ++ command)
  | notStarted command reason => some ("Cannot start command '" ++ command ++ "': " ++ reason)
  | shellMissing name => some ("Shell not found: " ++ name)
  | shellGone reason => some ("Shell session closed: " ++ reason)
  | host _ => none

/-- The failure of a run whose text could not be sent. -/
def ofSend : SendFailure → RunFailure
  | .shellMissing name => shellMissing name
  | .shellGone reason => shellGone reason
  | .other failure => host failure

end RunFailure

namespace Executor

variable {State : Type}

/-- Text as one compound command of a shell. -/
def compound (code : String) : String :=
  "\x7b " ++ code ++ "\n\x7d\n"

/-- What is in the temporary file of a block. -/
def fileContent (code : String) : String :=
  code ++ "\n"

/-- The path of what some runners make out of the file at a path. -/
def artifact (path : String) : String :=
  path ++ ".out"

/-- The command of a runner in a session, which removes its file at the end. -/
def sessionCommand (runner : Runner) (path : String) : String :=
  compound (runner.render path ++ "; rm -f \"" ++ path ++ "\" \"" ++ artifact path ++ "\"")

/-- An executor that has not run anything. -/
def make (runners : Registry) (mode : RunMode) (limit : Option Seconds) (shell : String) :
    Executor :=
  ⟨runners, Engine.ofMode mode shell, limit, false, none⟩

/-- The executor of a configuration. -/
def ofConfig (config : Config) : Executor :=
  { make config.registry config.mode (config.timeout.map fun seconds => .whole seconds)
      Session.defaultShell with config := some config }

/-- The way in which an executor runs blocks. -/
def mode (executor : Executor) : RunMode :=
  executor.engine.mode

/-- Whether an executor is closed: it was, or the shell of its session has exited. -/
def isClosed (host : Host State) (executor : Executor) (state : State) : Bool × State :=
  if executor.closed then (true, state)
  else
    match executor.engine with
    | .file => (false, state)
    | .shell session => session.hasEnded host state

/-- Removes the temporary file at a path and what a runner may have made out of it. -/
def cleanUp (host : Host State) (path : String) (state : State) : State :=
  host.removeFile (artifact path) (host.removeFile path state)

/-- The result of a command. -/
def resultOf (limit : Option Seconds) (command : String) :
    Except CommandFailure Int → Except RunFailure RunResult
  | .ok status => .ok ⟨command, some status⟩
  | .error .timedOut => .error (.timedOut (limit.getD (.whole 0)) command)
  | .error (.notStarted reason) => .error (.notStarted command reason)
  | .error (.other failure) => .error (.host failure)

/-- Runs code in a process of its own. -/
def runFile (host : Host State) (limit : Option Seconds) (runner : Runner) (code : String)
    (state : State) : Except RunFailure RunResult × State :=
  match host.createFile runner.ext (fileContent code) state with
  | (.error failure, state) => (.error (.host failure), state)
  | (.ok path, state) =>
      let command := runner.render path
      let (outcome, state) := host.runCommand command limit state
      (resultOf limit command outcome, cleanUp host path state)

/-- Sends a text to a session. -/
def sendText (host : Host State) (text : String) (session : Session) (state : State) :
    Except RunFailure RunResult × Session × State :=
  match session.send host text state with
  | (.ok (), session, state) => (.ok ⟨text, none⟩, session, state)
  | (.error failure, session, state) => (.error (.ofSend failure), session, state)

/-- Runs code in a session. -/
def runShell (host : Host State) (runner : Runner) (block : Block) (session : Session)
    (state : State) : Except RunFailure RunResult × Session × State :=
  if block.language = Language.shellscript then
    sendText host (compound block.code) session state
  else
    match host.createFile runner.ext (fileContent block.code) state with
    | (.error failure, state) => (.error (.host failure), session, state)
    | (.ok path, state) =>
        match sendText host (sessionCommand runner path) session state with
        | (.error (.host failure), session, state) => (.error (.host failure), session, state)
        | (.error failure, session, state) => (.error failure, session, cleanUp host path state)
        | (.ok result, session, state) => (.ok result, session, state)

/-- Runs a block. -/
def run (host : Host State) (block : Block) (executor : Executor) (state : State) :
    Except RunFailure RunResult × Executor × State :=
  match executor.isClosed host state with
  | (true, state) => (.error .closed, executor, state)
  | (false, state) =>
      match executor.runners.get? block.language with
      | none =>
          (.error (.noRunner block.language executor.runners.languages), executor, state)
      | some runner =>
          match executor.engine with
          | .file =>
              let (result, state) := runFile host executor.limit runner block.code state
              (result, executor, state)
          | .shell session =>
              let (result, session, state) := runShell host runner block session state
              (result, { executor with engine := .shell session }, state)

/-- Closes an executor.  It stays open if nobody can wait for the shell of its session. -/
def close (host : Host State) (limit : Option Seconds) (executor : Executor) (state : State) :
    Except HostFailure Unit × Executor × State :=
  match executor.engine with
  | .file => (.ok (), { executor with closed := true }, state)
  | .shell session =>
      match session.close host limit state with
      | (.ok (), session, state) =>
          (.ok (), { executor with engine := .shell session, closed := true }, state)
      | (.error failure, session, state) =>
          (.error failure, { executor with engine := .shell session }, state)

end Executor
end Snippets
