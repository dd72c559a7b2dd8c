import Snippets.Environment
import Snippets.Execution.Pool
import Snippets.Shell.Evaluation

/-!
# A machine in memory

A machine has files, a clock, variables, and programs that have been started.  Commands run
on it by the rules of the shell, and what they print is collected.  A program works on the
text that it was sent when its end is waited for, and before that only if it exits while a
long file is written.  A command can interrupt the process that waits for it; nothing interrupts
the wait for the end of a program.
-/

namespace Snippets

/-- A program that was started and takes text. -/
structure Worker where
  /-- The name of the program. -/
  program : List Char
  /-- The octets that were sent to it. -/
  input : List Char
  /-- Whether it has exited. -/
  hasExited : Bool

/-- Files, a clock, variables, and programs that have been started. -/
structure Machine where
  /-- What all processes share. -/
  world : Shell.World
  /-- The variables of the environment. -/
  bindings : List (String × String)
  /-- The names from the root to the working directory. -/
  directory : List String
  /-- The directory of temporary files. -/
  temporary : String
  /-- The number of the next temporary file. -/
  nextFile : Nat
  /-- The programs that were started, in order. -/
  workers : List Worker

namespace Machine

open Shell

/-- The buffer that collects what is printed. -/
def outputBuffer : Nat := 0

/-- The number of the process that starts all others. -/
def ownProcess : Nat := 2

/-- The time at which a machine starts, in microseconds. -/
def startTime : Nat := 1700000000000000

/-- The files of an environment as they are when a machine starts. -/
def startNodes (tree : FileTree) : List (List String × FileNode) :=
  tree.nodes.map fun entry =>
    (entry.1, entry.2.withTraits { entry.2.traits with modified := startTime })

/-- A machine in an environment on which nothing has run. -/
def ofEnvironment (environment : Environment) (temporary : String) : Machine where
  world :=
    { tree := ⟨Program.files.nodes ++ startNodes environment.tree⟩
      clock := startTime
      deadline := none
      buffers := #[.ofText []]
      nextProcess := ownProcess + 1
      later := []
      ended := []
      signals := []
      limits := []
      files := []
      outside := none
      current := ownProcess }
  bindings := environment.bindings
  directory := environment.workingDirectory
  temporary := temporary
  nextFile := 0
  workers := []

/-- What was printed since this was asked last. -/
def takeOutput (machine : Machine) : String × Machine :=
  (Text.decodeAny (toBytes (machine.world.buffer outputBuffer)),
    { machine with world := machine.world.setBuffer outputBuffer [] })

/-- The names of the files in the directory of temporary files. -/
def temporaryFiles (machine : Machine) : List String :=
  match machine.world.tree.locate machine.directory machine.temporary with
  | .ok names => machine.world.tree.children names
  | .error _ => []

/-- The path of the temporary file of a number. -/
def temporaryPath (machine : Machine) (ext : String) (number : Nat) : String :=
  let digits := padLeft 8 '0' (ofNat number)
  machine.temporary ++ "/blockrun-" ++ String.ofList digits ++ ext

/-- Why a step fails that needs a path which leads nowhere. -/
def failureOf : LookupFailure → HostFailure
  | .missing => .missing
  | .notDirectory => .notDirectory
  | .invalid => .invalidText
  | .tooLong | .tooManyLinks => .impossible

/-- Removes what stands under a path unless it is a directory. -/
def removeFile (path : String) (machine : Machine) : Machine :=
  match machine.world.tree.placeSelf machine.directory path with
  | .error _ => machine
  | .ok names =>
      if (machine.world.tree.node? names).all FileNode.isDirectory then machine
      else
        { machine with
          world := { machine.world with tree := machine.world.tree.remove names } }

/-- The time after a number of seconds. -/
def timeAfter (limit : Option Seconds) (machine : Machine) : Option Nat :=
  (limit.bind Seconds.microseconds?).map fun microseconds => machine.world.clock + microseconds

/-- The process that starts all others, with a time at which the one that it starts is ended. -/
def parent (input : Stream) (deadline : Option Nat) (machine : Machine) : State where
  world := { machine.world with deadline := deadline }
  dialect := .plain
  directory := machine.directory
  path := ofText ("/" ++ "/".intercalate machine.directory)
  bindings := (machine.bindings.map fun entry =>
    ⟨ofText entry.1, .single (ofText entry.2), { Traits.none with exported := true }⟩).reverse
  name := []
  process := ownProcess
  ownProcess := ownProcess
  descriptors := [(0, input), (1, .buffer outputBuffer), (2, .nothing)]
  isProgram := true

/-- A machine after processes have run on it.  No signal waits any longer for the process that
has started them. -/
def after (state : State) (machine : Machine) : Machine :=
  let signals := state.world.signals.filter fun entry => entry.1 != ownProcess
  { machine with world := { state.world with deadline := none, signals := signals } }

/-- Runs a program on the text that it was sent, up to a time.  The answer has what is left of
the text. -/
def runWorker (worker : Worker) (deadline : Option Nat) (machine : Machine) :
    List Char × Machine :=
  let (input, world) := machine.world.addBuffer worker.input
  let state := { machine with world := world }.parent (.buffer input) deadline
  let (_, ended) := Evaluation.run (.program [worker.program]) state
  (ended.world.buffer input, machine.after ended)

/-- Lets a program go on up to a time.  It has exited if it ends before that time although more
text might come; if it does not, it starts over when its end is waited for. -/
def letGoOn (time : Nat) (machine : Machine) (number : Nat) : Machine :=
  match machine.workers[number]? with
  | none => machine
  | some worker =>
      if worker.hasExited then machine
      else
        let more := { worker with input := worker.input ++ ['\n'] }
        let (rest, after) := machine.runWorker more (some time)
        if rest.isEmpty ∨ time ≤ after.world.clock then machine
        else
          { after with workers := after.workers.set number { worker with hasExited := true } }

/-- Lets microseconds pass, in which the programs that were started go on. -/
def elapse (microseconds : Nat) (machine : Machine) : Machine :=
  if microseconds = 0 then machine
  else
    let time := machine.world.clock + microseconds
    let machine := (List.range machine.workers.length).foldl (letGoOn time) machine
    { machine with world := machine.world.waitUntil time }

/-- The microseconds that it takes to write bytes to a file. -/
def writingTime (bytes : List UInt8) : Nat :=
  bytes.length / 1000

/-- The number of names that are tried for a temporary file. -/
def mostTries : Nat := 10000

/-- The first number, from a given one on, whose temporary file is not there yet, with the names
of that file. -/
def freeFile (machine : Machine) (ext : String) (number : Nat) :
    Nat → Except HostFailure (Nat × List String)
  | 0 => .error .impossible
  | tries + 1 =>
      match machine.world.tree.placeSelf machine.directory (machine.temporaryPath ext number) with
      | .error failure => .error (failureOf failure)
      | .ok names =>
          if (machine.world.tree.node? names).isSome then
            freeFile machine ext (number + 1) tries
          else .ok (number, names)

/-- A machine with one more temporary file, which nobody else may read. -/
def withFile (number : Nat) (names : List String) (bytes : List UInt8) (machine : Machine) :
    Machine :=
  let traits : NodeTraits := ⟨0o600, machine.world.clock, 0⟩
  { machine with
    nextFile := number + 1
    world := { machine.world with tree := machine.world.tree.put names (.file bytes traits) } }

/-- Makes a temporary file under a name that is free.  While a long one is written, the programs
that were started go on. -/
def createFile (ext content : String) (machine : Machine) :
    Except HostFailure String × Machine :=
  match machine.freeFile ext machine.nextFile mostTries with
  | .error failure => (.error failure, machine)
  | .ok (number, names) =>
      let bytes := Text.encodeUtf8 content.toList
      (.ok (machine.temporaryPath ext number),
        elapse (writingTime bytes) (machine.withFile number names bytes))

/-- The number of bytes that a command line may have. -/
def longestCommand : Nat := 131071

/-- The program that command lines are run by. -/
def plainShell : List Char := "/bin/sh".toList

/-- The number of the signal by which a user interrupts a process. -/
def interruptSignal : Nat := 2

/-- Runs a command line in the plain shell.  A status below zero is that of a shell which a
signal has ended.  There is no status if the process that starts all others was interrupted. -/
def runCommand (command : String) (limit : Option Seconds) (machine : Machine) :
    Except CommandFailure Int × Machine :=
  if command.toList.contains '\x00' then (.error (.other .invalidText), machine)
  else if longestCommand < command.utf8ByteSize then
    (.error (.notStarted "[Errno 7] Argument list too long: '/bin/sh'"), machine)
  else if !(limit.all Seconds.canBeAdded) then (.error (.other .tooLong), machine)
  else
    let state := machine.parent .nothing (machine.timeAfter limit)
    if state.world.isLate then (.error .timedOut, machine)
    else
      let words := [plainShell, "-c".toList, ofText command]
      let (_, ended) := Evaluation.run (.program words) state
      let machine := machine.after ended
      if ended.world.signals.contains (ownProcess, interruptSignal) then
        (.error (.other .interrupted), machine)
      else if ended.world.isLate then (.error .timedOut, machine)
      else
        match ended.signal with
        | some signal => (.ok (-(signal : Int)), machine)
        | none => (.ok ended.status, machine)

/-- Where programs are looked for. -/
def searchPath (machine : Machine) : List Char :=
  ofText ((machine.bindings.lookup "PATH").getD Program.defaultSearch)

/-- Why what was found under the name of a program cannot be started.  A text has to name the
program that reads it. -/
def startFailure? (machine : Machine) : Program.Found → Option HostFailure
  | .failed failure => some (failureOf failure)
  | .directory | .refused => some .refused
  | .file names =>
      let content := State.fileContent names machine.world.tree
      if (Program.nameOf? (toBytes (content.take 64))).isSome then none
      else
        match Evaluation.interpreter? content with
        | some (interpreter :: _) =>
            match Program.atPath machine.world.tree machine.directory interpreter with
            | .file _ => none
            | .failed failure => some (failureOf failure)
            | _ => some .refused
        | _ => some .impossible

/-- Why no program can be started of those that were found one after the other: the first
failure that is no missing file, or else the last one. -/
def firstFailure : List HostFailure → HostFailure
  | [] => .missing
  | [failure] => failure
  | failure :: rest =>
      if failure = .missing ∨ failure = .notDirectory then firstFailure rest else failure

/-- What is found in all places under the name of a program. -/
def foundPrograms (name : List Char) (machine : Machine) : List Program.Found :=
  if name.contains '/' then [Program.atPath machine.world.tree machine.directory name]
  else
    (Program.candidates machine.world.tree machine.directory machine.searchPath name).map
      Prod.snd

/-- Starts a program that takes text. -/
def startShell (name : String) (machine : Machine) : Except ShellFailure Nat × Machine :=
  if name.toList.contains '\x00' then (.error (.other .invalidText), machine)
  else
    let failures := (machine.foundPrograms (ofText name)).map machine.startFailure?
    if failures.contains none then
      (.ok machine.workers.length,
        { machine with workers := machine.workers ++ [⟨ofText name, [], false⟩] })
    else
      match firstFailure (failures.filterMap id) with
      | .missing => (.error .missing, machine)
      | failure => (.error (.other failure), machine)

/-- Whether a program is running. -/
def isRunning (number : Nat) (machine : Machine) : Bool × Machine :=
  (machine.workers[number]?.any fun worker => !worker.hasExited, machine)

/-- Whether a program reads what it is sent. -/
def readsInput (worker : Worker) (machine : Machine) : Bool :=
  (machine.runWorker { worker with input := ['\n'] } none).1.isEmpty

/-- The number of bytes that wait for a program which does not read. -/
def pipeSize : Nat := 65536

/-- Sends a text to a program. -/
def writeShell (number : Nat) (text : String) (machine : Machine) :
    Except String Unit × Machine :=
  match machine.workers[number]? with
  | none => (.error "[Errno 32] Broken pipe", machine)
  | some worker =>
      let input := worker.input ++ ofText text
      if worker.hasExited ∨ (pipeSize < input.length ∧ ¬machine.readsInput worker) then
        (.error "[Errno 32] Broken pipe", machine)
      else
        (.ok (),
          { machine with workers := machine.workers.set number { worker with input := input } })

/-- Waits until a program exits.  When the time is over, the program is ended. -/
def endShell (number : Nat) (limit : Option Seconds) (machine : Machine) :
    Except HostFailure Unit × Machine :=
  match machine.workers[number]? with
  | none => (.ok (), machine)
  | some worker =>
      let canWait := limit.all Seconds.canBeAdded
      let answer := if canWait then .ok () else .error .tooLong
      if worker.hasExited then (answer, machine)
      else
        let deadline := if canWait then machine.timeAfter limit else none
        let (_, machine) := machine.runWorker worker deadline
        (answer,
          { machine with
            workers := machine.workers.set number { worker with hasExited := true } })

/-- The machine as what an executor acts on. -/
def host : Host Machine where
  createFile := createFile
  removeFile := removeFile
  runCommand := runCommand
  startShell := startShell
  isRunning := isRunning
  writeShell := writeShell
  endShell := endShell

end Machine
end Snippets
