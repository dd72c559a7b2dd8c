import Snippets.Shell.State
import Snippets.Shell.Tool.Columns
import Snippets.Shell.Tool.Copying
import Snippets.Shell.Tool.Digest
import Snippets.Shell.Tool.Display
import Snippets.Shell.Tool.Division
import Snippets.Shell.Tool.Edit
import Snippets.Shell.Tool.Encoding
import Snippets.Shell.Tool.Filling
import Snippets.Shell.Tool.Number
import Snippets.Shell.Tool.Reckoning
import Snippets.Shell.Tool.Search
import Snippets.Shell.Tool.Surroundings

/-!
# Programs by name

The programs that a shell can start, and where it looks for them.
-/

namespace Snippets
namespace Shell
namespace Program

/-- The programs that print, and those that are told what to print. -/
def printingTools : List (String × Tool) :=
  [("basename", Print.basename), ("date", Date.date), ("dirname", Print.dirname),
   ("echo", Print.echoProgram), ("expr", Reckoning.expr), ("factor", NumberTool.factor),
   ("false", Surroundings.constant 1), ("numfmt", NumberTool.numfmt),
   ("printenv", Print.printenv), ("printf", Print.printfProgram), ("seq", NumberTool.seq),
   ("shuf", Sorting.shuf), ("true", Surroundings.constant 0), ("yes", Print.yes)]

/-- The programs that read text and print other text. -/
def textTools : List (String × Tool) :=
  [("cat", Display.cat), ("comm", Sorting.comm), ("cut", Columns.cut),
   ("egrep", Search.grep), ("expand", Columns.expand), ("fgrep", Search.grep),
   ("fmt", Filling.fmt), ("fold", Columns.fold), ("grep", Search.grep),
   ("head", Display.choosing false), ("join", Columns.join), ("nl", Display.nl),
   ("od", Encoding.od), ("paste", Columns.paste), ("rev", Display.rev), ("sed", Edit.sed),
   ("sort", Sorting.sort), ("tac", Display.tac), ("tail", Display.choosing true),
   ("tee", Display.tee), ("tr", Columns.tr), ("tsort", Sorting.tsort),
   ("unexpand", Columns.unexpand), ("uniq", Sorting.uniq), ("wc", Display.wc)] ++
    Digest.programs ++ Encoding.programs

/-- The programs that handle files. -/
def fileTools : List (String × Tool) :=
  [("chgrp", Rights.chgrp), ("chmod", Rights.chmod), ("chown", Rights.chown),
   ("cp", Copying.cp), ("csplit", Division.csplit), ("dd", Division.dd), ("du", Listing.du),
   ("install", Copying.install), ("link", Making.link), ("ln", Copying.ln), ("ls", Listing.ls),
   ("mkdir", Making.mkdir), ("mktemp", Making.mktemp), ("mv", Copying.mv),
   ("readlink", Listing.readlink), ("realpath", Listing.realpath), ("rm", Making.rm),
   ("rmdir", Making.rmdir), ("split", Division.split), ("stat", Listing.stat),
   ("sync", Surroundings.constant 0), ("touch", Making.touch), ("truncate", Making.truncate),
   ("unlink", Making.unlink)]

/-- The programs that tell of their surroundings. -/
def surroundingTools : List (String × Tool) :=
  [("[", Surroundings.test), ("arch", Surroundings.printer "x86_64" []),
   ("getconf", Surroundings.getconf), ("groups", Surroundings.groups),
   ("hostname", Surroundings.hostname), ("id", Surroundings.id),
   ("logname", Surroundings.logname), ("nproc", Surroundings.nproc),
   ("pathchk", Surroundings.pathchk), ("pwd", Surroundings.pwd), ("sleep", Surroundings.sleep),
   ("test", Surroundings.test), ("tty", Surroundings.tty), ("uname", Surroundings.uname),
   ("users", Surroundings.constant 0), ("who", Surroundings.constant 0),
   ("whoami", Surroundings.printer "root" [])]

/-- The programs and their names. -/
def tools : List (String × Tool) :=
  printingTools ++ textTools ++ fileTools ++ surroundingTools

/-- The programs that run commands themselves. -/
def runners : List String :=
  ["sh", "dash", "bash", "rbash", "env", "find", "nohup", "nice", "setsid", "stdbuf", "timeout",
   "which", "xargs"]

/-- Where programs are looked for unless a variable says otherwise. -/
def defaultSearch : String := "/usr/local/sbin:/usr/local/bin:/usr/sbin:/usr/bin:/sbin:/bin"

/-- What the file of a program starts with. -/
def programMark : List UInt8 := [0x7F, 0x45, 0x4C, 0x46]

/-- The directories that every machine has. -/
def places : List (List String) :=
  [["boot"], ["dev"], ["etc"], ["home"], ["media"], ["mnt"], ["opt"], ["proc"], ["root"], ["run"],
   ["srv"], ["sys"], ["tmp"], ["usr"], ["usr", "bin"], ["usr", "games"], ["usr", "include"],
   ["usr", "lib"], ["usr", "local"], ["usr", "local", "bin"], ["usr", "local", "sbin"],
   ["usr", "sbin"], ["usr", "share"], ["usr", "src"], ["var"], ["var", "log"], ["var", "tmp"]]

/-- The links that every machine has. -/
def links : List (String × String) :=
  [("bin", "usr/bin"), ("lib", "usr/lib"), ("sbin", "usr/sbin")]

/-- The devices that every machine has. -/
def devices : List String :=
  ["null", "zero", "full", "random", "urandom", "tty"]

/-- The rights to a directory that every machine has. -/
def placeTraits (names : List String) : NodeTraits :=
  if names = ["tmp"] ∨ names = ["var", "tmp"] then ⟨0o1777, 0, 0⟩
  else if names = ["root"] then ⟨0o700, 0, 0⟩
  else .directory

/-- A tree with the files that every machine has. -/
def files : FileTree :=
  let names := tools.map Prod.fst ++ runners
  let program := fun name : String =>
    (["usr", "bin", name], FileNode.file (programMark ++ Text.encodeUtf8 name.toList) .program)
  ⟨places.map (fun place => (place, .directory (placeTraits place))) ++
    links.map (fun link => ([link.1], .link link.2 ⟨0o777, 0, 0⟩)) ++
    devices.map (fun device => (["dev", device], .file [] ⟨0o666, 0, 0⟩)) ++
    names.map program⟩

/-- The name of the program that a file holds. -/
def nameOf? (content : List UInt8) : Option String :=
  if programMark.isPrefixOf content then
    let name := toText (ofBytes (content.drop programMark.length))
    if runners.contains name ∨ (tools.lookup name).isSome then some name else none
  else none

/-- What is found under the name of a command. -/
inductive Found where
  /-- A file that can be run. -/
  | file (names : List String)
  /-- A directory. -/
  | directory
  /-- A file that cannot be run. -/
  | refused
  /-- Nothing. -/
  | failed (failure : LookupFailure)
  deriving DecidableEq

/-- What a path leads to. -/
def atPath (tree : FileTree) (directory : List String) (path : List Char) : Found :=
  match tree.locate directory (toText path) with
  | .error failure => .failed failure
  | .ok names =>
      match tree.node? names with
      | some (.file content traits) =>
          if (FileNode.file content traits).isProgram ∧ path.getLast? ≠ some '/' then .file names
          else if path.getLast? = some '/' then .failed .notDirectory
          else .refused
      | some (.unreadable _ _) =>
          if path.getLast? = some '/' then .failed .notDirectory else .refused
      | some _ => .directory
      | none => .failed .missing

/-- The directories of a search path.  An empty one is the working directory. -/
def searched (search : List Char) : List (List Char) :=
  (splitAt ':' search).map fun directory => if directory.isEmpty then ['.'] else directory

/-- What is found under a name in each directory of a search path, with the path that leads
there. -/
def candidates (tree : FileTree) (directory : List String) (search name : List Char) :
    List (List Char × Found) :=
  (searched search).map fun place =>
    let path := if place.getLast? = some '/' then place ++ name else place ++ '/' :: name
    (path, atPath tree directory path)

/-- Whether something is a file that can be run. -/
def Found.isFile : Found → Bool
  | .file _ => true
  | _ => false

/-- What is found under the name of a command, with the path that leads there.  A name without
a slash is looked for in the directories of a search path. -/
def find (tree : FileTree) (directory : List String) (search name : List Char) :
    List Char × Found :=
  if name.contains '/' then (name, atPath tree directory name)
  else if name.isEmpty then (name, .failed .missing)
  else
    let found := candidates tree directory search name
    match found.find? fun candidate => candidate.2.isFile with
    | some candidate => candidate
    | none =>
        match found.find? fun candidate => candidate.2 = .refused with
        | some candidate => candidate
        | none => (name, .failed .missing)

/-- The search path of a shell. -/
def searchOf (state : State) : List Char :=
  (state.value? "PATH".toList).getD defaultSearch.toList

/-- What is found under the name of a command in a shell. -/
def lookup (name : List Char) (state : State) : List Char × Found :=
  find state.world.tree state.directory (searchOf state) name

/-- The microseconds that starting a program takes. -/
def startCost : Nat := 1000

/-- Whether a stream is a buffer that holds what is in a file. -/
def isFromFile (stream : Option Stream) (world : World) : Bool :=
  match stream with
  | some (.buffer number) => world.files.contains number
  | some (.file _) => true
  | _ => false

/-- The number of octets that a stream takes, if there is a limit. -/
def roomOf (stream : Option Stream) (world : World) : Option Nat :=
  match stream with
  | some (.buffer number) => world.limits.lookup number
  | some .full => some 0
  | none => some 0
  | _ => none

/-- A shell in which everything has been written that it reads. -/
def awaitInput (descriptor : Nat) (state : State) : State :=
  match state.stream? descriptor with
  | some (.buffer number) => state.modifyWorld (World.drain number)
  | _ => state

/-- What a program is given by a shell. -/
def invocationOf (name : List Char) (arguments : List (List Char)) (state : State) :
    Invocation :=
  { name := name
    arguments := arguments
    input := state.input
    isFile := isFromFile (state.stream? 0) state.world
    tree := state.world.tree
    directory := state.directory
    environment := state.environment
    clock := state.world.clock
    mask := state.mask
    descriptors := (state.descriptors.filter fun entry => 2 < entry.1).map fun entry =>
      (entry.1, state.inputOf entry.1)
    limit := roomOf (state.stream? 1) state.world
    process := state.world.nextProcess }

/-- The words for a stream that takes nothing. -/
def writeTrouble? (descriptor : Nat) (state : State) : Option String :=
  match state.stream? descriptor with
  | none => some "Bad file descriptor"
  | some .full => some "No space left on device"
  | _ => none

/-- What a program leaves, on the files and descriptors of a shell. -/
def settle (invocation : Invocation) (outcome : Outcome) (state : State) : State :=
  let state := state.modifyWorld fun world =>
    { world with tree := outcome.tree, nextProcess := world.nextProcess + 1 }
  let state := state.wait startCost
  let state := if outcome.input.length = invocation.input.length then state
    else state.setInput outcome.input
  let state := outcome.writes.reverse.foldl (fun state entry => state.write entry.1 entry.2) state
  let state := if outcome.pause = 0 then state else state.wait outcome.pause
  let writes := outcome.writes.any fun entry => entry.1 = 1
  match writes, writeTrouble? 1 state with
  | true, some trouble =>
      (state.write 2 (invocation.complaint (ofText ("write error: " ++ trouble)))).withStatus 1
  | _, _ =>
      if writes ∧ state.isOutputFull then { state.withStatus 141 with signal := some 13 }
      else state.withStatus outcome.status

/-- A shell in which as much has been written of what it reads as a program takes, which is told
by what the program leaves of a longer text. -/
def awaitNeeded (outcome : Outcome) (future : List Char) (state : State) : State :=
  match state.stream? 0 with
  | some (.buffer number) =>
      let taken := future.length - outcome.input.length
      if outcome.input.isEmpty then state.modifyWorld (World.drain number)
      else
        state.modifyWorld fun world =>
          (world.awaitText number (fun text => decide (taken ≤ text.length)) none
            (world.later.length + 1)).2
  | _ => state

/-- Runs a program on the files and descriptors of a shell.  It waits for what it reads. -/
def invoke (tool : Tool) (name : List Char) (arguments : List (List Char)) (state : State) :
    State :=
  let invocation := invocationOf name arguments state
  if state.world.later.isEmpty then settle invocation (tool invocation) state
  else
    let future := match state.stream? 0 with
      | some (.buffer number) => state.world.futureText number
      | _ => invocation.input
    -- A line that nobody has written shows whether the program reads.
    let probe := if future.isEmpty then ['\n'] else future
    let outcome := tool { invocation with input := probe }
    if outcome.input.length = probe.length then settle invocation (tool invocation) state
    else
      let state := awaitNeeded outcome future state
      let invocation := invocationOf name arguments state
      settle invocation (tool invocation) state

end Program
end Shell
end Snippets
