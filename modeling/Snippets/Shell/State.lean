import Snippets.Shell.Printing
import Snippets.Shell.Script
import Snippets.Shell.Variable
import Snippets.Shell.World

/-!
# The state of a shell

Each shell has its variables, functions, settings and descriptors in the world that it
shares with others.
-/

namespace Snippets
namespace Shell

/-- Where a descriptor leads. -/
inductive Stream where
  /-- To nothing. -/
  | nothing
  /-- To a device that has no room. -/
  | full
  /-- To a buffer. -/
  | buffer (number : Nat)
  /-- To the end of a file. -/
  | file (names : List String)
  deriving DecidableEq

/-- A function or a script that has been called. -/
structure Frame where
  /-- The name. -/
  name : List Char
  /-- The number of the line of the call. -/
  line : Nat
  /-- The name of the file that the line is in. -/
  source : List Char
  /-- Whether a function has been called. -/
  isFunction : Bool
  /-- The variables as they were before the function made them its own. -/
  saved : List (List Char × Option Variable)
  /-- The scripts for occasions that the function does not see. -/
  traps : List (String × List Char)

/-- A function. -/
structure Definition where
  /-- What it runs. -/
  body : Command
  /-- The name of the file that it comes from. -/
  source : List Char

/-- A command that was sent to the background. -/
structure Job where
  /-- The number of the job. -/
  number : Nat
  /-- The number of its process. -/
  process : Nat
  /-- The command as it is written. -/
  text : List Char
  /-- The number of the job that was running before it. -/
  before : Option Nat
  /-- Whether its end has been told. -/
  isTold : Bool

/-- A script that reads what a command writes. -/
structure Listener where
  /-- The buffer that it reads. -/
  buffer : Nat
  /-- The script. -/
  script : List Char
  /-- Where its descriptors lead. -/
  descriptors : List (Nat × Stream)

/-- A shell and the world around it. -/
structure State where
  /-- What the shell shares with others. -/
  world : World
  /-- Which shell it is. -/
  dialect : Dialect
  /-- The names from the root to the working directory. -/
  directory : List String
  /-- The path by which the working directory was reached. -/
  path : List Char
  /-- The variables. -/
  bindings : List Variable := []
  /-- The functions. -/
  functions : List (List Char × Definition) := []
  /-- The functions that other shells see. -/
  exportedFunctions : List (List Char) := []
  /-- The words that stand for other text at the start of a command. -/
  aliases : List (List Char × List Char) := []
  /-- The paths of programs that have been found by their names, and how often they were
  used. -/
  remembered : List (List Char × List Char × Nat) := []
  /-- The name under which the script was started. -/
  name : List Char
  /-- The name of the file that the running command is in. -/
  source : List Char := []
  /-- The arguments. -/
  arguments : List (List Char) := []
  /-- The status of the last command. -/
  status : Nat := 0
  /-- The statuses of the commands of the last pipeline. -/
  statuses : List Nat := []
  /-- The number of the process of the script. -/
  process : Nat
  /-- The number of the process that runs the command, which differs in a copy. -/
  ownProcess : Nat
  /-- The number of the process that started the shell. -/
  parent : Nat := 1
  /-- The number of the last process that was sent to the background. -/
  lastJob : Option Nat := none
  /-- The commands that were sent to the background. -/
  jobs : List Job := []
  /-- Where the descriptors lead. -/
  descriptors : List (Nat × Stream)
  /-- The names of the settings that are on. -/
  settings : List String := []
  /-- The scripts that run when something happens, by its name. -/
  traps : List (String × List Char) := []
  /-- The scripts that the shell had set which this one is a copy of. -/
  formerTraps : Option (List (String × List Char)) := none
  /-- The processes of the shells that this one is a copy of. -/
  ancestors : List Nat := []
  /-- The processes that the shell has sent to the background. -/
  children : List Nat := []
  /-- The functions and scripts that are running. -/
  frames : List Frame := []
  /-- The signal that has ended the last program. -/
  signal : Option Nat := none
  /-- The number of loops around the command, in the running function. -/
  loops : Nat := 0
  /-- The number of the line of the command. -/
  line : Nat := 1
  /-- The number of lines that have been read before the rest of the script. -/
  linesRead : Nat := 0
  /-- The rights that new files do not have. -/
  mask : Nat := 0o022
  /-- How nice programs are to others. -/
  niceness : Int := 0
  /-- The directories to come back to. -/
  stack : List (List Char) := []
  /-- The number that the next random number is made from. -/
  seed : Nat := 42
  /-- The time at which the seconds are zero. -/
  secondsFrom : Nat := 0
  /-- The place in the argument from which the next option is read. -/
  optionPlace : Nat := 1
  /-- The number of copies of the shell around the command. -/
  depth : Nat := 0
  /-- The number under which the next file with several names is known. -/
  nextIdentity : Nat := 1
  /-- The status before the trap that is running. -/
  statusBefore : Option Nat := none
  /-- The status of the last script that a word of the running command holds. -/
  lastSubstitution : Option Nat := none
  /-- The running command. -/
  command : Option Command := none
  /-- The last word of the last command. -/
  lastArgument : List Char := []
  /-- The variables that only the running command has. -/
  temporaries : List (List Char) := []
  /-- The path of the program that is being started. -/
  program : Option (List Char) := none
  /-- Whether the variables are those of a program that runs another one. -/
  isProgram : Bool := false
  /-- The scripts that read what the running command writes, the latest first. -/
  listeners : List Listener := []
  /-- How many scripts are inside of each other, one for each time a text became a script. -/
  nesting : Nat := 0

/-- How a script goes on after a command. -/
inductive Flow where
  /-- With the next command. -/
  | next
  /-- With the next command of the script, whatever the command is in. -/
  | abandon
  /-- At the end of the script. -/
  | exit
  /-- At the end of the function. -/
  | leave
  /-- After the given number of loops. -/
  | stop (count : Nat)
  /-- With the next turn of the given number of loops. -/
  | again (count : Nat)
  /-- Not at all, because a signal or the end of its time has ended it. -/
  | ended (signal : Nat)
  deriving DecidableEq

namespace State

/-- Whether a setting is on. -/
def has (setting : String) (state : State) : Bool :=
  state.settings.contains setting

/-- Turns a setting on or off. -/
def setSetting (setting : String) (on : Bool) (state : State) : State :=
  let others := state.settings.filter (· != setting)
  { state with settings := if on then setting :: others else others }

/-- Whether the shell is the one with the extensions. -/
def isBash (state : State) : Bool :=
  state.dialect = .bash

/-- The stream of a descriptor, unless it is closed. -/
def stream? (descriptor : Nat) (state : State) : Option Stream :=
  state.descriptors.lookup descriptor

/-- Makes a descriptor lead somewhere. -/
def setStream (descriptor : Nat) (stream : Stream) (state : State) : State :=
  { state with
    descriptors := (descriptor, stream) ::
      state.descriptors.filter fun entry => entry.1 != descriptor }

/-- Closes a descriptor. -/
def closeStream (descriptor : Nat) (state : State) : State :=
  { state with descriptors := state.descriptors.filter fun entry => entry.1 != descriptor }

/-- The buffers that descriptors lead to. -/
def heldBuffers (state : State) : List Nat :=
  state.descriptors.filterMap fun entry =>
    match entry.2 with
    | .buffer number => some number
    | _ => none

/-- Changes the world. -/
def modifyWorld (change : World → World) (state : State) : State :=
  { state with world := change state.world }

/-- Lets time pass. -/
def wait (microseconds : Nat) (state : State) : State :=
  state.modifyWorld (World.wait microseconds)

/-- The content of a file. -/
def fileContent (names : List String) (tree : FileTree) : List Char :=
  match tree.node? names with
  | some (.file content _) => ofBytes content
  | _ => []

/-- Puts octets into a file that is there, which keeps its rights. -/
def writeFile (names : List String) (octets : List Char) (world : World) : World :=
  match world.tree.node? names with
  | some (.file _ traits) =>
      { world with
        tree := world.tree.replace names
          (.file (toBytes octets) { traits with modified := world.clock }) }
  | _ => world

/-- Whether a descriptor takes octets. -/
def takes (descriptor : Nat) (state : State) : Bool :=
  match state.stream? descriptor with
  | none | some .full => false
  | _ => true

/-- Writes octets to a descriptor. -/
def write (descriptor : Nat) (octets : List Char) (state : State) : State :=
  if octets.isEmpty then state
  else
    match state.stream? descriptor with
    | some (.buffer number) => state.modifyWorld (World.writeBuffer number octets)
    | some (.file names) =>
        state.modifyWorld fun world =>
          writeFile names (fileContent names world.tree ++ octets) world
    | _ => state

/-- What can be read from a descriptor. -/
def inputOf (descriptor : Nat) (state : State) : List Char :=
  match state.stream? descriptor with
  | some (.buffer number) => state.world.buffer number
  | some (.file names) => fileContent names state.world.tree
  | _ => []

/-- Leaves only a rest on a descriptor. -/
def setInputOf (descriptor : Nat) (rest : List Char) (state : State) : State :=
  match state.stream? descriptor with
  | some (.buffer number) => state.modifyWorld (World.setBuffer number rest)
  | _ => state

/-- What can be read from standard input. -/
def input (state : State) : List Char :=
  state.inputOf 0

/-- Leaves only a rest on standard input. -/
def setInput (rest : List Char) (state : State) : State :=
  state.setInputOf 0 rest

/-- Whether a buffer that standard output leads to takes no more. -/
def isOutputFull (state : State) : Bool :=
  match state.stream? 1 with
  | some (.buffer number) => state.world.isFull number
  | _ => false

/-- The seconds since the time at which they are zero. -/
def seconds (state : State) : Nat :=
  state.world.clock / 1000000 - state.secondsFrom

/-- The names of the settings that are turned on and off by name. -/
def settingNames : List String :=
  ["allexport", "braceexpand", "emacs", "errexit", "errtrace", "functrace", "hashall",
   "histexpand", "history", "ignoreeof", "interactive-comments", "keyword", "monitor",
   "noclobber", "noexec", "noglob", "nolog", "notify", "nounset", "onecmd", "physical",
   "pipefail", "posix", "privileged", "verbose", "vi", "xtrace"]

/-- The names of the further settings of the shell with the extensions. -/
def optionNames : List String :=
  ["autocd", "assoc_expand_once", "cdable_vars", "cdspell", "checkhash", "checkjobs",
   "checkwinsize", "cmdhist", "compat31", "compat32", "compat40", "compat41", "compat42",
   "compat43", "compat44", "complete_fullquote", "direxpand", "dirspell", "dotglob", "execfail",
   "expand_aliases", "extdebug", "extglob", "extquote", "failglob", "force_fignore",
   "globasciiranges", "globskipdots", "globstar", "gnu_errfmt", "histappend", "histreedit",
   "histverify", "hostcomplete", "huponexit", "inherit_errexit", "interactive_comments",
   "lastpipe", "lithist", "localvar_inherit", "localvar_unset", "login_shell", "mailwarn",
   "no_empty_cmd_completion", "nocaseglob", "nocasematch", "noexpand_translation", "nullglob",
   "patsub_replacement", "progcomp", "progcomp_alias", "promptvars", "restricted_shell",
   "shift_verbose", "sourcepath", "varredir_close", "xpg_echo"]

/-- The settings that are on when a shell with the extensions starts. -/
def usualSettings : List String :=
  ["braceexpand", "hashall", "interactive-comments", "checkwinsize", "cmdhist",
   "complete_fullquote", "extquote", "force_fignore", "globasciiranges", "globskipdots",
   "hostcomplete", "interactive_comments", "patsub_replacement", "progcomp", "promptvars",
   "sourcepath"]

/-- Texts as the content of a variable, unless there are none. -/
def listContent (texts : List (List Char)) : Content :=
  .indexed (texts.zipIdx.map fun entry => (entry.2, entry.1))

/-- The content of a variable that the shell sets. -/
def dynamic? (name : List Char) (state : State) : Option Content :=
  let number := fun value : Nat => some (Content.single (ofNat value))
  match String.ofList name with
  | "LINENO" => number state.line
  | "PPID" => number state.parent
  | "OPTIND" => none
  | other =>
      if state.dialect = .plain then none
      else
        let functions := state.frames.filter fun frame => frame.isFunction
        -- A script from a command line is in no file.
        let isNamed := !state.settings.contains "command"
        match other with
        | "SECONDS" => number state.seconds
        | "EPOCHSECONDS" => number (state.world.clock / 1000000)
        | "EPOCHREALTIME" =>
            let fraction := ofNat (state.world.clock % 1000000)
            some (.single (ofNat (state.world.clock / 1000000) ++
              '.' :: (List.replicate (6 - fraction.length) '0' ++ fraction)))
        | "BASHPID" => number state.ownProcess
        | "BASH_SUBSHELL" => number state.depth
        | "_" => some (.single state.lastArgument)
        | "BASH_COMMAND" =>
            state.command.map fun command =>
              .single (Printing.command false Printing.deepest 0 command)
        | "PIPESTATUS" => some (listContent (state.statuses.map ofNat))
        | "FUNCNAME" =>
            if functions.isEmpty then some .nothing
            else
              some (listContent (state.frames.map Frame.name ++
                if isNamed then ["main".toList] else []))
        | "BASH_LINENO" =>
            some (listContent (state.frames.map (fun frame => ofNat frame.line) ++
              if isNamed then [['0']] else []))
        | "BASH_SOURCE" =>
            let sources := state.source :: state.frames.map Frame.source
            some (listContent (if isNamed then sources else sources.dropLast))
        | "DIRSTACK" => some (listContent (state.path :: state.stack))
        | "GROUPS" => some (listContent [['0']])
        | "SHELLOPTS" =>
            some (.single ([':'].intercalate (((state.settings.filter
              settingNames.contains).mergeSort).map String.toList)))
        | "BASHOPTS" =>
            some (.single ([':'].intercalate (((state.settings.filter
              optionNames.contains).mergeSort).map String.toList)))
        | _ => none

/-- The variable of a name. -/
def binding? (name : List Char) (state : State) : Option Variable :=
  match state.bindings.find? fun entry => entry.name = name with
  | some entry => some entry
  | none => (state.dynamic? name).map fun content => ⟨name, content, .none⟩

/-- The name and the subscript that a name stands for, through at most a number of
references. -/
def resolveFrom (state : State) : Nat → List Char → List Char × Option (List Char)
  | 0, name => (name, none)
  | fuel + 1, name =>
      match state.bindings.find? fun entry => entry.name = name with
      | some entry =>
          match entry.traits.reference, entry.content.text? with
          | true, some target =>
              let base := target.takeWhile (· != '[')
              if target.isEmpty then (name, none)
              else if base.length = target.length then resolveFrom state fuel target
              else ((resolveFrom state fuel base).1,
                some ((target.drop (base.length + 1)).dropLast))
          | _, _ => (name, none)
      | none => (name, none)

/-- The name and the subscript that a name stands for. -/
def resolve (name : List Char) (state : State) : List Char × Option (List Char) :=
  state.resolveFrom 16 name

/-- What the variable of a name holds. -/
def content (name : List Char) (state : State) : Content :=
  ((state.binding? (state.resolve name).1).map Variable.content).getD .nothing

/-- The value of a variable. -/
def value? (name : List Char) (state : State) : Option (List Char) :=
  let (name, subscript) := state.resolve name
  let content := ((state.binding? name).map Variable.content).getD .nothing
  match subscript with
  | none => content.text?
  | some key =>
      match content with
      | .keyed elements => elements.lookup key
      | content => (toNat? key).bind content.at?

/-- Changes the variable of a name, which is made if it is not there. -/
def modifyVariable (name : List Char) (change : Variable → Variable) (state : State) : State :=
  if state.bindings.any fun entry => entry.name = name then
    { state with
      bindings := state.bindings.map fun entry =>
        if entry.name = name then change entry else entry }
  else
    let entry := (state.binding? name).getD ⟨name, .nothing, .none⟩
    { state with bindings := change entry :: state.bindings }

/-- Sets what a variable holds, whatever its traits. -/
def setContent (name : List Char) (content : Content) (state : State) : State :=
  state.modifyVariable name fun entry =>
    { entry with content := content, traits := { entry.traits with isBare := false } }

/-- Sets the text of a variable, whatever its traits. -/
def setVariable (name value : List Char) (state : State) : State :=
  state.modifyVariable name fun entry =>
    { entry with
      content := entry.content.setText value, traits := { entry.traits with isBare := false } }

/-- Sets a variable that programs see. -/
def setExported (name value : List Char) (state : State) : State :=
  state.modifyVariable name fun entry =>
    { entry with
      content := entry.content.setText value, traits := { entry.traits with exported := true } }

/-- Removes a variable. -/
def unset (name : List Char) (state : State) : State :=
  { state with bindings := state.bindings.filter fun entry => entry.name != name }

/-- Puts a variable back, or removes the one that is there. -/
def restore (name : List Char) (before : Option Variable) (state : State) : State :=
  let state := state.unset name
  match before with
  | some entry => { state with bindings := entry :: state.bindings }
  | none => state

/-- Makes a variable the running function's own, without a value. -/
def makeLocal (name : List Char) (state : State) : State :=
  let rec add : List Frame → List Frame
    | [] => []
    | frame :: rest =>
        if frame.isFunction then
          if frame.saved.any fun entry => entry.1 = name then frame :: rest
          else
            let before := state.bindings.find? fun entry => entry.name = name
            { frame with saved := (name, before) :: frame.saved } :: rest
        else frame :: add rest
  { state with frames := add state.frames }

/-- Whether the running function has made a variable its own. -/
def isLocal (name : List Char) (state : State) : Bool :=
  match state.frames.find? fun frame => frame.isFunction with
  | some frame => frame.saved.any fun entry => entry.1 = name
  | none => false

/-- Whether a function is running. -/
def isInFunction (state : State) : Bool :=
  state.frames.any fun frame => frame.isFunction

/-- Starts a function or a script that comes from a file. -/
def enter (name source : List Char) (isFunction : Bool) (arguments : List (List Char))
    (state : State) : State :=
  let isHidden := fun trap : String × List Char =>
    isFunction && ((trap.1 = "ERR" && !state.has "errtrace") ||
      ((trap.1 = "DEBUG" || trap.1 = "RETURN") && !state.has "functrace"))
  { state with
    frames := ⟨name, state.line, state.source, isFunction, [], state.traps.filter isHidden⟩ ::
      state.frames
    traps := state.traps.filter fun trap => !isHidden trap
    source := source
    arguments := arguments
    loops := 0 }

/-- Ends the running function or script, and gives the arguments and the loops from before
back. -/
def leave (state before : State) : State :=
  match state.frames with
  | [] => { state with arguments := before.arguments, loops := before.loops }
  | frame :: rest =>
      let state := frame.saved.foldl (fun state entry => state.restore entry.1 entry.2) state
      let hidden := frame.traps.filter fun trap => (state.traps.lookup trap.1).isNone
      { state with
        traps := state.traps ++ hidden
        frames := rest, arguments := before.arguments, loops := before.loops
        line := before.line, source := before.source }

/-- The number of the row of a table in which the plain shell keeps a variable. -/
def plainRow (name : List Char) : Nat :=
  (name.foldl (fun sum octet => sum + octet.toNat) ((name.head?.getD ' ').toNat * 16)) % 39

/-- The variables that programs see, in the order in which they are given to them.  A shell
goes through the rows of its table of variables. -/
def environment (state : State) : List (List Char × List Char) :=
  let seen := state.bindings.filterMap fun entry =>
    if entry.traits.exported then
      match entry.content with
      | .single value => some (entry.name, value)
      | _ => none
    else none
  let inRows := fun (row : List Char → Nat) (entries : List (List Char × List Char)) =>
    entries.mergeSort fun first second => row first.1 ≤ row second.1
  if state.isProgram then seen.reverse
  else
    match state.dialect with
    | .plain => inRows plainRow seen.reverse
    | .bash =>
        let (own, others) := seen.partition fun entry => state.temporaries.contains entry.1
        inRows (fun name => Content.hash name % 4) own ++
          inRows (fun name => Content.hash name % 1024) others ++
          (state.program.map fun path => (['_'], path)).toList

/-- A shell as a program that runs other ones: it has no variables but those that programs see,
and has not found any program. -/
def asProgram (state : State) : State :=
  if state.isProgram then state
  else
    { state with
      bindings := (state.environment.map fun entry : List Char × List Char =>
        ⟨entry.1, .single entry.2, { Traits.none with exported := true }⟩).reverse
      remembered := []
      isProgram := true }

/-- Sets the status. -/
def withStatus (status : Nat) (state : State) : State :=
  { state with status := status }

/-- What stands before a message. -/
def messageStart (state : State) : List Char :=
  match state.dialect with
  | .bash =>
      (if state.source.isEmpty then state.name else state.source) ++
        ": line ".toList ++ ofNat state.line ++ ": ".toList
  | .plain => state.name ++ ": ".toList ++ ofNat state.line ++ ": ".toList

/-- Writes a message to standard error. -/
def complain (message : List Char) (state : State) : State :=
  state.write 2 (state.messageStart ++ message ++ ['\n'])

/-- Writes a message to standard error and sets the status. -/
def fail (message : String) (status : Nat) (state : State) : State :=
  (state.complain (ofText message)).withStatus status

/-- Whether a process in the background is running. -/
def isRunning (process : Nat) (state : State) : Bool :=
  (state.world.endOf? process).isSome

/-- A shell that has forgotten the jobs whose end has been told. -/
def forgetTold (state : State) : State :=
  if state.jobs.isEmpty then state
  else
    { state with
      jobs := state.jobs.filter fun job => !job.isTold || isRunning job.process state }

/-- A shell that has told the end of some jobs. -/
def tellJobs (chosen : Job → Bool) (state : State) : State :=
  { state with
    jobs := state.jobs.map fun job => if chosen job then { job with isTold := true } else job }

/-- The letters of settings, in the order in which they are listed. -/
def settingLetters : Dialect → List (Char × String)
  | .bash =>
      [('a', "allexport"), ('b', "notify"), ('e', "errexit"), ('f', "noglob"), ('h', "hashall"),
       ('k', "keyword"), ('m', "monitor"), ('n', "noexec"), ('p', "privileged"), ('t', "onecmd"),
       ('u', "nounset"), ('v', "verbose"), ('x', "xtrace"), ('B', "braceexpand"),
       ('C', "noclobber"), ('E', "errtrace"), ('H', "histexpand"), ('P', "physical"),
       ('T', "functrace")]
  | .plain =>
      [('p', "privileged"), ('u', "nounset"), ('b', "notify"), ('a', "allexport"),
       ('C', "noclobber"), ('E', "emacs"), ('V', "vi"), ('v', "verbose"), ('x', "xtrace"),
       ('s', "stdin"), ('n', "noexec"), ('m', "monitor"), ('i', "interactive"),
       ('I', "ignoreeof"), ('f', "noglob"), ('e', "errexit")]

/-- The letters of the settings that are on. -/
def flags (state : State) : List Char :=
  let on := (settingLetters state.dialect).filterMap fun entry =>
    if state.has entry.2 then some entry.1 else none
  match state.dialect with
  | .plain => on
  | .bash => on ++ (if state.has "command" then ['c'] else if state.has "input" then ['s'] else [])

/-- The value of a parameter that the shell sets. -/
def special? (name : Char) (state : State) : Option (List Char) :=
  match name with
  | '?' => some (ofNat state.status)
  | '#' => some (ofNat state.arguments.length)
  | '$' => some (ofNat state.process)
  | '!' => state.lastJob.map ofNat
  | '0' => some state.name
  | '-' => some state.flags
  | _ => none

/-- The value of a parameter. -/
def parameter? (name : List Char) (state : State) : Option (List Char) :=
  match toNat? name with
  | some 0 => some state.name
  | some (number + 1) => state.arguments[number]?
  | none =>
      match name with
      | [single] =>
          match state.special? single with
          | some value => some value
          | none => state.value? name
      | _ => state.value? name

/-- The names that a path leads to. -/
def locate (path : List Char) (state : State) : Except LookupFailure (List String) :=
  state.world.tree.locate state.directory (toText path)

/-- The names under which a path is found or could be made. -/
def place (path : List Char) (state : State) : Except LookupFailure (List String) :=
  state.world.tree.place state.directory (toText path)

/-- The node that a path leads to. -/
def node? (path : List Char) (state : State) : Option FileNode :=
  (state.world.tree.lookup state.directory (toText path)).toOption

/-- How the shell reads a script, of which a rest is left. -/
def reading (rest : List Char) (state : State) : Reading :=
  { dialect := state.dialect
    lastLine := state.linesRead + 1 + Script.countLines rest
    aliases :=
      if state.dialect = .plain ∨ state.has "expand_aliases" then state.aliases else []
    extended := state.dialect = .bash ∧ state.has "extglob" }

end State
end Shell
end Snippets
