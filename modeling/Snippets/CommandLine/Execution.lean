import Snippets.CommandLine.Listing
import Snippets.CommandLine.Target
import Snippets.Duration
import Snippets.Execution.Pool

/-!
# Commands

What each request prints and how it ends.  A run announces the block, runs it on an
executor, and ends with the status of the block.  The executor is closed however the run of
the block ends.  What there is to say about a run that fails is said before that; about one
that does not fail it is said afterwards.
-/

namespace Snippets
namespace CommandLine

variable {State : Type}

/-- Prints a table. -/
def tableReport (columns : List Terminal.Column) (rows : List (List String)) : Report :=
  match Terminal.Table.markedLines Message.terminalWidth columns rows with
  | .ok lines => ⟨lines.map String.ofList, .exit Report.success⟩
  | .error failure => .escaping (.markup failure)

/-- Lists the blocks of a file. -/
def listBlocks (environment : Environment) (subject : Subject) : Report :=
  match openSubject environment subject with
  | .error refusal => refusal.report
  | .ok opened =>
      if !opened.config.showAffordance then
        .saying [⟨.info, "Block listing disabled (show_affordance: false)"⟩] Report.success
      else if opened.blocks.isEmpty then
        .saying [⟨.info, "No runnable blocks found in " ++ subject.file⟩] Report.success
      else
        tableReport BlockRow.columns
          ((BlockRow.ofBlocks opened.document opened.blocks).map BlockRow.cells)

/-- Shows the runners in effect. -/
def showRunners (environment : Environment) (path : Option String) : Report :=
  match loadConfig environment path with
  | .error refusal => refusal.report
  | .ok config => tableReport RunnerRow.columns ((RunnerRow.ofConfig config).map RunnerRow.cells)

/-- A host whose clock can be read. -/
structure ClockedHost (State : Type) where
  /-- The host. -/
  host : Host State
  /-- The microseconds on the clock. -/
  clock : State → Nat

/-- The text of a number of microseconds. -/
def durationText (microseconds : Nat) : String :=
  Duration.textOfRatio false microseconds 1000000

/-- What comes of a block that is to be run. -/
inductive Outcome where
  /-- There is no executor for it. -/
  | unready (failure : HostFailure)
  /-- An executor has run it with some result, and was closed or could not be. -/
  | ran (result : Except RunFailure RunResult) (closed : Except HostFailure Unit)

/-- Runs a block on an executor of its own or on the shared one, which is closed
afterwards. -/
def performIn (host : Host State) (config : Config) (block : Block) (pool : Pool)
    (state : State) : Outcome × Pool × State :=
  match pool.acquire host config state with
  | (.error failure, pool, state) => (.unready failure, pool, state)
  | (.ok number, pool, state) =>
      let (result, pool, state) := pool.run host number block state
      let (closed, pool, state) :=
        if config.reuseExecutor then pool.closeShared host none state
        else pool.close host number none state
      (.ran result closed, pool, state)

/-- Runs a block in a process in which no executor was made before. -/
def perform (host : Host State) (config : Config) (block : Block) (state : State) :
    Outcome × State :=
  let (outcome, _, state) := performIn host config block Pool.empty state
  (outcome, state)

/-- What is reported on a run that fails.  An interruption is a way to end, and only a failure
that is not expected escapes. -/
def failureReport : RunFailure → Report
  | .host .interrupted => .saying [⟨.warning, "Interrupted"⟩] Report.interrupted
  | .host failure => .escaping (.host failure)
  | failure => .saying [⟨.error, failure.message?.getD ""⟩] Report.failure

/-- What is reported on the result of a run that took some microseconds. -/
def resultReport (quiet : Bool) (microseconds : Nat) (result : RunResult) : Report :=
  match result.status with
  | none => .saying [] Report.success
  | some status =>
      if result.succeeded then
        let message : Message := ⟨.success, "Finished in " ++ durationText microseconds⟩
        .saying (if quiet then [] else [message]) status
      else
        .saying [⟨.warning, "Exited with status " ++ toString status ++ " after " ++
          durationText microseconds⟩] status

/-- What is reported on a block that was to be run, which took some microseconds.  A failure
to close the executor comes after what is said on a failed run, and takes the place of its
ending. -/
def outcomeReport (quiet : Bool) (microseconds : Nat) : Outcome → Report
  | .unready failure => .escaping (.host failure)
  | .ran (.error failure) (.ok ()) => failureReport failure
  | .ran (.error failure) (.error reason) =>
      (Report.escaping (.host reason)).after (failureReport failure).lines
  | .ran (.ok result) (.ok ()) => resultReport quiet microseconds result
  | .ran (.ok _) (.error reason) => .escaping (.host reason)

/-- What is said before a run. -/
def announcement (opened : Opened) (block : Block) : Message :=
  ⟨.info, block.title opened.document ++ " (" ++ block.language ++ ")"⟩

/-- Runs a block of a file. -/
def runBlockIn (clocked : ClockedHost State) (environment : Environment) (request : RunRequest)
    (pool : Pool) (state : State) : Report × Pool × State :=
  match target environment request with
  | .error refusal => (refusal.report, pool, state)
  | .ok (opened, block) =>
      let announced := if request.quiet then [] else [announcement opened block]
      match Message.allLines announced with
      | .error failure => (.escaping (.markup failure), pool, state)
      | .ok lines =>
          let (outcome, pool, after) := performIn clocked.host opened.config block pool state
          let elapsed := clocked.clock after - clocked.clock state
          ((outcomeReport request.quiet elapsed outcome).after lines, pool, after)

/-- Runs a block of a file in a process in which no executor was made before. -/
def runBlock (clocked : ClockedHost State) (environment : Environment) (request : RunRequest)
    (state : State) : Report × State :=
  let (report, _, state) := runBlockIn clocked environment request Pool.empty state
  (report, state)

/-- Does what a request asks for. -/
def answerIn (clocked : ClockedHost State) (environment : Environment) (request : Request)
    (pool : Pool) (state : State) : Report × Pool × State :=
  match request with
  | .list subject => (listBlocks environment subject, pool, state)
  | .run request => runBlockIn clocked environment request pool state
  | .runners path => (showRunners environment path, pool, state)
  | .help => (⟨[], .exit Report.success⟩, pool, state)

/-- Does what arguments ask for.  Wrong arguments end a command with nothing done. -/
def runIn (clocked : ClockedHost State) (environment : Environment) (arguments : List String)
    (pool : Pool) (state : State) : Report × Pool × State :=
  match Request.ofArguments? arguments with
  | some request => answerIn clocked environment request pool state
  | none => (⟨[], .exit Report.wrongUse⟩, pool, state)

/-- Does what arguments ask for in a process in which no executor was made before. -/
def run (clocked : ClockedHost State) (environment : Environment) (arguments : List String)
    (state : State) : Report × State :=
  let (report, _, state) := runIn clocked environment arguments Pool.empty state
  (report, state)

end CommandLine
end Snippets
