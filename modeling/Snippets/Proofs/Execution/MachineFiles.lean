import Snippets.Proofs.Execution.MachineShells
import Snippets.Proofs.Files.Trees

/-!
# The files of a machine

Three things become of the files of a machine while blocks are run: a temporary file is made
where nothing stood, the file at a path is removed, and a temporary file is cleaned up together
with what a runner may have made out of it.  Each leaves all other files as they are.  The
programs on the machine may do anything between these steps.
-/

namespace Snippets
namespace Machine

open Executor (artifact cleanUp)

/-- The names under which a path is found or could be made. -/
def place? (path : String) (machine : Machine) : Option (List String) :=
  (machine.world.tree.placeSelf machine.directory path).toOption

/-- What stands under a path. -/
def nodeAt? (path : String) (machine : Machine) : Option FileNode :=
  (machine.place? path).bind machine.world.tree.node?

theorem place?_eq_some_iff {path : String} {machine : Machine} {names : List String} :
    machine.place? path = some names ↔
      machine.world.tree.placeSelf machine.directory path = .ok names := by
  unfold place?
  cases machine.world.tree.placeSelf machine.directory path with
  | error failure => simp [Except.toOption]
  | ok place => simp [Except.toOption]

theorem nodeAt?_eq_some_iff {path : String} {machine : Machine} {node : FileNode} :
    machine.nodeAt? path = some node ↔
      ∃ names, machine.place? path = some names ∧ machine.world.tree.node? names = some node :=
  Option.bind_eq_some_iff

theorem nodeAt?_of_place?
    {path : String}
    {machine : Machine}
    {names : List String}
    (found : machine.place? path = some names) :
    machine.nodeAt? path = machine.world.tree.node? names := by
  rw [nodeAt?, found, Option.bind_some]

/-! ## Comparing files -/

/-- Whether two machines have the same files and the same working directory. -/
structure SameFiles (before after : Machine) : Prop where
  tree : after.world.tree = before.world.tree
  directory : after.directory = before.directory

theorem SameFiles.refl (machine : Machine) : machine.SameFiles machine :=
  ⟨rfl, rfl⟩

theorem SameFiles.trans
    {first second third : Machine}
    (earlier : first.SameFiles second)
    (later : second.SameFiles third) :
    first.SameFiles third :=
  ⟨later.tree.trans earlier.tree, later.directory.trans earlier.directory⟩

theorem SameFiles.place?
    {before after : Machine}
    (same : before.SameFiles after)
    (path : String) :
    after.place? path = before.place? path := by
  rw [Machine.place?, same.tree, same.directory, Machine.place?]

theorem SameFiles.nodeAt?
    {before after : Machine}
    (same : before.SameFiles after)
    (path : String) :
    after.nodeAt? path = before.nodeAt? path := by
  rw [Machine.nodeAt?, same.place?, same.tree, Machine.nodeAt?]

/-- Whether all files of a machine are files of another one with the same working directory. -/
structure FilesWithin (inner outer : Machine) : Prop where
  tree : inner.world.tree.Within outer.world.tree
  directory : inner.directory = outer.directory

theorem FilesWithin.place?
    {inner outer : Machine}
    (within : inner.FilesWithin outer)
    {path : String}
    {names : List String}
    (found : inner.place? path = some names) :
    outer.place? path = some names := by
  rw [place?_eq_some_iff] at found ⊢
  exact within.directory ▸ within.tree.placeSelf found

theorem FilesWithin.nodeAt?
    {inner outer : Machine}
    (within : inner.FilesWithin outer)
    {path : String}
    {node : FileNode}
    (found : inner.nodeAt? path = some node) :
    outer.nodeAt? path = some node := by
  rw [nodeAt?_eq_some_iff] at found ⊢
  obtain ⟨names, placed, there⟩ := found
  exact ⟨names, within.place? placed, within.tree names node there⟩

/-! ## Removing a file -/

/-- Removing the file at a path takes it out of the tree, unless nothing or a directory stands
there. -/
theorem removeFile_cases (path : String) (machine : Machine) :
    (machine.nodeAt? path).all FileNode.isDirectory = true ∧ machine.removeFile path = machine ∨
      ∃ names, machine.place? path = some names ∧
        (machine.nodeAt? path).all FileNode.isDirectory = false ∧ names ≠ [] ∧
        machine.removeFile path =
          { machine with
            world := { machine.world with tree := machine.world.tree.remove names } } := by
  unfold removeFile
  cases placed : machine.world.tree.placeSelf machine.directory path with
  | error failure =>
      exact .inl ⟨by simp [nodeAt?, place?, placed, Except.toOption], rfl⟩
  | ok names =>
      have found := place?_eq_some_iff.mpr placed
      rw [nodeAt?_of_place? found]
      dsimp only
      split
      · rename_i isDirectory
        exact .inl ⟨isDirectory, rfl⟩
      · rename_i noDirectory
        refine .inr ⟨names, found, by simpa using noDirectory, ?_, rfl⟩
        rintro rfl
        simp [FileTree.node?, FileNode.isDirectory] at noDirectory

theorem filesWithin_removeFile (path : String) (machine : Machine) :
    (machine.removeFile path).FilesWithin machine := by
  rcases machine.removeFile_cases path with ⟨-, same⟩ | ⟨names, -, -, notRoot, removed⟩
  · rw [same]
    exact ⟨.refl _, rfl⟩
  · rw [removed]
    exact ⟨FileTree.within_remove notRoot, rfl⟩

/-- Nothing stands under a path after the file there was removed. -/
theorem nodeAt?_removeFile
    {path : String}
    {machine : Machine}
    (noDirectory : ∀ node, machine.nodeAt? path = some node → node.isDirectory = false) :
    (machine.removeFile path).nodeAt? path = none := by
  have within := machine.filesWithin_removeFile path
  rw [Option.eq_none_iff_forall_ne_some]
  intro node found
  have foundBefore := within.nodeAt? found
  rcases machine.removeFile_cases path with ⟨isDirectory, -⟩ | ⟨names, placed, -, notRoot, removed⟩
  · simp [foundBefore, noDirectory node foundBefore] at isDirectory
  · obtain ⟨names', placed', there⟩ := nodeAt?_eq_some_iff.mp found
    have same : names' = names := Option.some.inj ((within.place? placed').symm.trans placed)
    rw [removed, same, FileTree.node?_remove _ notRoot, if_pos rfl] at there
    cases there

/-- Removing the file at a path leaves what stands in all other places. -/
theorem node?_removeFile
    {path : String}
    {machine : Machine}
    {names : List String}
    (elsewhere : machine.place? path ≠ some names) :
    (machine.removeFile path).world.tree.node? names = machine.world.tree.node? names := by
  rcases machine.removeFile_cases path with ⟨-, same⟩ | ⟨place, placed, -, notRoot, removed⟩
  · rw [same]
  · have other : names ≠ place := fun same => elsewhere (same ▸ placed)
    rw [removed, FileTree.node?_remove _ notRoot, if_neg other]

/-- Whether all that became of the files between two moments is that what stood under some paths
was removed. -/
structure Clears (paths : List String) (before after : Machine) : Prop where
  /-- Nothing stands under the paths. -/
  gone : ∀ path ∈ paths, after.nodeAt? path = none
  /-- What stood elsewhere still stands there, and nothing else does. -/
  kept : ∀ names, (∀ path ∈ paths, before.place? path ≠ some names) →
    after.world.tree.node? names = before.world.tree.node? names
  directory : after.directory = before.directory

/-! ## Making a temporary file -/

/-- A name that is free is one under which nothing stands. -/
theorem placeSelf_of_freeFile
    {machine : Machine}
    {ext : String}
    {first number tries : Nat}
    {names : List String}
    (free : machine.freeFile ext first tries = .ok (number, names)) :
    machine.place? (machine.temporaryPath ext number) = some names ∧
      machine.world.tree.node? names = none := by
  induction tries generalizing first with
  | zero => cases free
  | succ tries inductionHypothesis =>
      unfold freeFile at free
      split at free
      · cases free
      · rename_i place placed
        split at free
        · exact inductionHypothesis free
        · rename_i nothing
          cases free
          exact ⟨place?_eq_some_iff.mpr placed, by simpa using nothing⟩

theorem tree_showTree (world : Shell.World) : world.showTree.tree = world.tree := by
  unfold Shell.World.showTree
  split
  · rfl
  · dsimp only
    split <;> rfl

theorem later_showTree (world : Shell.World) : world.showTree.later = world.later := by
  unfold Shell.World.showTree
  split
  · rfl
  · dsimp only
    split <;> rfl

/-- Time changes no files if nothing was going to happen. -/
theorem tree_wait
    {world : Shell.World}
    (noEffects : world.later = [])
    (microseconds : Nat) :
    (world.wait microseconds).tree = world.tree := by
  have shown : (if Shell.World.pause ≤ microseconds then world.showTree else world).tree =
        world.tree ∧
      (if Shell.World.pause ≤ microseconds then world.showTree else world).later = [] := by
    split
    · exact ⟨tree_showTree world, (later_showTree world).trans noEffects⟩
    · exact ⟨rfl, noEffects⟩
  simp [Shell.World.wait, shown]

/-- Whether nobody changes files while a content is written to a temporary file. -/
def Undisturbed (content : String) (machine : Machine) : Prop :=
  ∀ number names,
    let bytes := Text.encodeUtf8 content.toList
    let made := machine.withFile number names bytes
    made.SameFiles (elapse (writingTime bytes) made)

/-- Nobody changes files on a machine on which no other program runs. -/
theorem undisturbed_of_alone
    {machine : Machine}
    (noWorkers : machine.workers = [])
    (noEffects : machine.world.later = [])
    (content : String) :
    machine.Undisturbed content := by
  intro number names bytes made
  have nobody : List.range made.workers.length = [] := by
    rw [show made.workers = [] from noWorkers, List.length_nil, List.range_zero]
  have nothingLater : made.world.later = [] := noEffects
  unfold elapse
  split
  · exact .refl made
  · simp only [nobody, List.foldl_nil]
    exact ⟨tree_wait nothingLater _, rfl⟩

/-- Whether all that became of the files between two moments is that a file with a content was
made under a path where nothing stood. -/
structure Makes (path content : String) (before after : Machine) : Prop where
  /-- Nothing stood under the path. -/
  isNew : before.nodeAt? path = none
  /-- The file holds the content and nothing else. -/
  holds : ∃ traits, after.nodeAt? path = some (.file (Text.encodeUtf8 content.toList) traits)
  /-- What stood elsewhere still stands there, and nothing else does. -/
  kept : ∀ names, before.place? path ≠ some names →
    after.world.tree.node? names = before.world.tree.node? names
  directory : after.directory = before.directory

/-- Whether a path is one of a temporary file with an extension. -/
def IsTemporary (ext path : String) (machine : Machine) : Prop :=
  ∃ digits : List Char, (∀ digit ∈ digits, digit.isDigit = true) ∧
    path = machine.temporary ++ "/blockrun-" ++ String.ofList digits ++ ext

theorem isDigit_padLeft
    {width number : Nat}
    {character : Char}
    (present : character ∈ Shell.padLeft width '0' (Shell.ofNat number)) :
    character.isDigit = true := by
  unfold Shell.padLeft at present
  rcases List.mem_append.mp present with filled | given
  · rw [(List.mem_replicate.mp filled).2]
    decide
  · refine Nat.isDigit_of_mem_toDigits (b := 10) (n := number) (by decide) (by decide) ?_
    simpa [Shell.ofNat, Nat.repr] using given

theorem isTemporary_temporaryPath (machine : Machine) (ext : String) (number : Nat) :
    machine.IsTemporary ext (machine.temporaryPath ext number) :=
  ⟨_, fun _ present => isDigit_padLeft present, rfl⟩

theorem filesWithin_withFile
    {machine : Machine}
    {names : List String}
    (nothing : machine.world.tree.node? names = none)
    (number : Nat)
    (bytes : List UInt8) :
    machine.FilesWithin (machine.withFile number names bytes) :=
  ⟨FileTree.within_put nothing _, rfl⟩

/-- The machine right after a temporary file was made under names that were free. -/
theorem makes_withFile
    {machine : Machine}
    {path : String}
    {names : List String}
    (placed : machine.place? path = some names)
    (nothing : machine.world.tree.node? names = none)
    (number : Nat)
    (content : String) :
    machine.Makes path content
      (machine.withFile number names (Text.encodeUtf8 content.toList)) := by
  have notRoot := FileTree.ne_nil_of_node?_eq_none nothing
  have put := FileTree.node?_put machine.world.tree notRoot
  have within := filesWithin_withFile nothing number (Text.encodeUtf8 content.toList)
  refine ⟨(nodeAt?_of_place? placed).trans nothing, ⟨⟨0o600, machine.world.clock, 0⟩, ?_⟩,
    fun other elsewhere => ?_, rfl⟩
  · rw [nodeAt?_of_place? (within.place? placed)]
    exact (put _ names).trans (if_pos rfl)
  · have notThere : other ≠ names := fun same => elsewhere (same ▸ placed)
    exact (put _ other).trans (if_neg notThere)

theorem Makes.sameFiles
    {path content : String}
    {before made after : Machine}
    (makes : before.Makes path content made)
    (same : made.SameFiles after) :
    before.Makes path content after where
  isNew := makes.isNew
  holds := by rw [same.nodeAt?]; exact makes.holds
  kept := fun names elsewhere => by rw [same.tree]; exact makes.kept names elsewhere
  directory := same.directory.trans makes.directory

/-- A temporary file that could be made has a free name, and a machine with it has no other
change of files unless somebody makes one meanwhile. -/
theorem createFile_ok
    {machine started : Machine}
    {ext content path : String}
    (created : machine.createFile ext content = (.ok path, started)) :
    ∃ number names,
      path = machine.temporaryPath ext number ∧
      machine.place? path = some names ∧
      machine.world.tree.node? names = none ∧
      (machine.Undisturbed content →
        (machine.withFile number names (Text.encodeUtf8 content.toList)).SameFiles started) := by
  unfold createFile at created
  split at created
  · cases created
  · rename_i number names free
    obtain ⟨placed, nothing⟩ := placeSelf_of_freeFile free
    cases created
    exact ⟨number, names, rfl, placed, nothing, fun undisturbed => undisturbed number names⟩

theorem isTemporary_of_createFile
    {machine started : Machine}
    {ext content path : String}
    (created : machine.createFile ext content = (.ok path, started)) :
    machine.IsTemporary ext path := by
  obtain ⟨number, names, rfl, -⟩ := createFile_ok created
  exact machine.isTemporary_temporaryPath ext number

theorem makes_createFile
    {machine started : Machine}
    {ext content path : String}
    (created : machine.createFile ext content = (.ok path, started))
    (undisturbed : machine.Undisturbed content) :
    machine.Makes path content started := by
  obtain ⟨number, names, rfl, placed, nothing, same⟩ := createFile_ok created
  exact (makes_withFile placed nothing number content).sameFiles (same undisturbed)

/-! ## Programs that may do anything -/

/-- What programs do to a machine: the command lines that are run and the shells that are
started, written to and ended. -/
structure Programs where
  runCommand (command : String) (limit : Option Seconds) :
    Machine → Except CommandFailure Int × Machine
  startShell (name : String) : Machine → Except ShellFailure Nat × Machine
  isRunning (shell : Nat) : Machine → Bool
  writeShell (shell : Nat) (text : String) : Machine → Except String Unit × Machine
  endShell (shell : Nat) (limit : Option Seconds) : Machine → Except HostFailure Unit × Machine

/-- The files of the machine with any programs. -/
def hostWith (programs : Programs) : Host Machine where
  createFile := createFile
  removeFile := removeFile
  runCommand := programs.runCommand
  startShell := programs.startShell
  isRunning := fun shell machine => (programs.isRunning shell machine, machine)
  writeShell := programs.writeShell
  endShell := programs.endShell

/-- The programs of the machine itself. -/
def ownPrograms : Programs where
  runCommand := runCommand
  startShell := startShell
  isRunning := fun shell machine => (machine.isRunning shell).1
  writeShell := writeShell
  endShell := endShell

theorem hostWith_ownPrograms : hostWith ownPrograms = host :=
  rfl

/-- Whether the files stay as they are while shells are started and written to. -/
structure Programs.LeavesFiles (programs : Programs) : Prop where
  startShell (name : String) (machine : Machine) :
    machine.SameFiles (programs.startShell name machine).2
  writeShell (shell : Nat) (text : String) (machine : Machine) :
    machine.SameFiles (programs.writeShell shell text machine).2

theorem leavesFiles_ownPrograms : ownPrograms.LeavesFiles where
  startShell := fun name machine => by
    dsimp only [ownPrograms]
    rcases machine.startShell_cases name with ⟨failure, started⟩ | ⟨worker, -, started⟩
    · exact started ▸ .refl machine
    · exact started ▸ ⟨rfl, rfl⟩
  writeShell := fun shell text machine => by
    dsimp only [ownPrograms]
    unfold writeShell
    split
    · exact .refl machine
    · dsimp only
      split
      · exact .refl machine
      · exact ⟨rfl, rfl⟩

theorem cleanUp_eq (programs : Programs) (path : String) (machine : Machine) :
    cleanUp (hostWith programs) path machine =
      (machine.removeFile path).removeFile (artifact path) := rfl

/-- A cleaned up path is free again, and so is the one of what a runner may have made out of
the file there.  Nothing else is removed. -/
theorem clears_cleanUp
    (programs : Programs)
    {path : String}
    {machine : Machine}
    (noDirectory : ∀ place ∈ [path, artifact path], ∀ node,
      machine.nodeAt? place = some node → node.isDirectory = false) :
    machine.Clears [path, artifact path] (cleanUp (hostWith programs) path machine) := by
  have first := machine.filesWithin_removeFile path
  have second := (machine.removeFile path).filesWithin_removeFile (artifact path)
  have pathGone := nodeAt?_removeFile (noDirectory path (by simp))
  have artifactGone : ((machine.removeFile path).removeFile (artifact path)).nodeAt?
      (artifact path) = none :=
    nodeAt?_removeFile fun node found =>
      noDirectory (artifact path) (by simp) node (first.nodeAt? found)
  rw [cleanUp_eq]
  refine ⟨?_, fun names elsewhere => ?_, second.directory.trans first.directory⟩
  · simp only [List.forall_mem_cons, List.not_mem_nil, false_imp_iff, implies_true, and_true]
    refine ⟨Option.eq_none_iff_forall_ne_some.mpr fun node found => ?_, artifactGone⟩
    simp [second.nodeAt? found] at pathGone
  · have notArtifact : (machine.removeFile path).place? (artifact path) ≠ some names :=
      fun placed => elsewhere (artifact path) (by simp) (first.place? placed)
    rw [node?_removeFile notArtifact, node?_removeFile (elsewhere path (by simp))]

/-- Cleaning up right after a temporary file was made leaves the files as they were before, unless
something stood where a runner may make something out of that file. -/
theorem sameFiles_cleanUp
    (programs : Programs)
    {machine started later : Machine}
    {ext content path : String}
    (created : machine.createFile ext content = (.ok path, started))
    (undisturbed : machine.Undisturbed content)
    (free : (machine.nodeAt? (artifact path)).all FileNode.isDirectory = true)
    (same : started.SameFiles later) :
    machine.SameFiles (cleanUp (hostWith programs) path later) := by
  obtain ⟨number, names, rfl, placed, nothing, made⟩ := createFile_ok created
  have there := ((makes_createFile created undisturbed).sameFiles same).holds
  have files := (made undisturbed).trans same
  have placedLater : later.place? (machine.temporaryPath ext number) = some names := by
    rw [files.place?]
    exact (filesWithin_withFile nothing _ _).place? placed
  have removed : machine.SameFiles (later.removeFile (machine.temporaryPath ext number)) := by
    rcases later.removeFile_cases (machine.temporaryPath ext number) with
      ⟨isDirectory, -⟩ | ⟨place, found, -, -, removed⟩
    · obtain ⟨traits, holds⟩ := there
      simp [holds, FileNode.isDirectory] at isDirectory
    · have samePlace : place = names := Option.some.inj (found.symm.trans placedLater)
      have sameTree : later.world.tree.remove names = machine.world.tree := by
        rw [files.tree]
        exact (FileTree.remove_put _ _ _).trans (FileTree.remove_of_node?_eq_none nothing)
      rw [removed, samePlace]
      exact ⟨sameTree, files.directory⟩
  rcases (later.removeFile (machine.temporaryPath ext number)).removeFile_cases
      (artifact (machine.temporaryPath ext number)) with ⟨-, kept⟩ | ⟨-, -, notFree, -⟩
  · rw [cleanUp_eq, kept]
    exact removed
  · rw [removed.nodeAt?, free] at notFree
    cases notFree

/-! ## A machine with a directory of temporary files only -/

/-- A machine whose only node is an empty directory of temporary files. -/
def tidy : Machine :=
  { withWorkers [] with
    world := { (withWorkers []).world with tree := ⟨[(["tmp"], .directory .directory)]⟩ }
    temporary := "/tmp" }

/-- A block in a language that is no shell's. -/
def note : Block where
  start := 0
  stop := 0
  language := "note"
  code := "x"
  anchor := 0

/-- A runner that shows a note. -/
def noteRunner : Runner :=
  ⟨"cat \"\x7bfile\x7d\"", ".txt"⟩

/-- A registry with that runner only. -/
def noteRunners : Registry :=
  Registry.empty.insert note.language noteRunner

/-- The path of the first temporary file of that machine. -/
def notePath : String := "/tmp/blockrun-00000000.txt"

/-- A name in a directory of temporary files leads there. -/
theorem place?_of_directory
    {machine : Machine}
    {traits : NodeTraits}
    (isRoot : machine.directory = [])
    (directory : machine.world.tree.node? ["tmp"] = some (.directory traits))
    {text name : String}
    (parts : Path.parts text = ["", "tmp", name])
    (plain : name ≠ "" ∧ name ≠ "." ∧ name ≠ "..")
    (short : ¬FileTree.longestName < name.utf8ByteSize)
    (valid : FileTree.textFailure? text = none) :
    machine.place? text = some ["tmp", name] := by
  have start : FileTree.start machine.directory text = [] := by
    rw [isRoot]
    exact ite_self []
  have shortTmp : ¬FileTree.longestName < "tmp".utf8ByteSize := by decide
  have root : machine.world.tree.node? [] = some (.directory .directory) := rfl
  have followed : machine.world.tree.follow [] ["", "tmp"] = .ok ["tmp"] := by
    simp [FileTree.follow, FileTree.followLinks, root, directory, shortTmp]
  rw [place?_eq_some_iff]
  simp [FileTree.placeSelf, parts, plain, short, valid, start, followed, directory]

/-- A temporary file gets the next number if nothing has its name, and if it is short, nothing
happens while it is written. -/
theorem createFile_of_free
    {machine : Machine}
    {ext content path : String}
    {names : List String}
    (path_eq : machine.temporaryPath ext machine.nextFile = path)
    (placed : machine.place? path = some names)
    (nothing : machine.world.tree.node? names = none)
    (instant : writingTime (Text.encodeUtf8 content.toList) = 0) :
    machine.createFile ext content =
      (.ok path, machine.withFile machine.nextFile names (Text.encodeUtf8 content.toList)) := by
  have free : machine.freeFile ext machine.nextFile mostTries = .ok (machine.nextFile, names) := by
    rw [show mostTries = 9999 + 1 from rfl, freeFile, path_eq]
    simp only [place?_eq_some_iff.mp placed, nothing]
    rfl
  simp only [createFile, free, path_eq, instant, elapse, if_true]

theorem place?_tidy
    {text name : String}
    (parts : Path.parts text = ["", "tmp", name])
    (plain : name ≠ "" ∧ name ≠ "." ∧ name ≠ "..")
    (short : ¬FileTree.longestName < name.utf8ByteSize)
    (valid : FileTree.textFailure? text = none) :
    tidy.place? text = some ["tmp", name] :=
  place?_of_directory rfl
    (by decide : tidy.world.tree.node? ["tmp"] = some (.directory .directory)) parts plain short
    valid

theorem place?_notePath : tidy.place? notePath = some ["tmp", "blockrun-00000000.txt"] :=
  place?_tidy (by decide) (by decide) (by decide) (by decide)

theorem place?_noteArtifact :
    tidy.place? (notePath ++ ".out") = some ["tmp", "blockrun-00000000.txt.out"] :=
  place?_tidy (by decide) (by decide) (by decide) (by decide)

/-- That machine with the temporary file of the note. -/
def noted : Machine :=
  tidy.withFile 0 ["tmp", "blockrun-00000000.txt"]
    (Text.encodeUtf8 (note.code ++ "\n").toList)

theorem node?_tidy : tidy.world.tree.node? ["tmp", "blockrun-00000000.txt"] = none := by
  decide

theorem createFile_tidy :
    tidy.createFile noteRunner.ext (note.code ++ "\n") = (.ok notePath, noted) :=
  createFile_of_free (by decide) place?_notePath node?_tidy (by decide)

/-- Nothing has been made out of the note. -/
theorem nodeAt?_noteArtifact : noted.nodeAt? (notePath ++ ".out") = none := by
  have within := filesWithin_withFile node?_tidy 0 (Text.encodeUtf8 (note.code ++ "\n").toList)
  have placed : noted.place? (notePath ++ ".out") = some ["tmp", "blockrun-00000000.txt.out"] :=
    within.place? place?_noteArtifact
  rw [nodeAt?_of_place? placed]
  decide

/-- A shell that is named by a path fails to start as what the path leads to does. -/
theorem startShell_of_path
    {name : String}
    {machine : Machine}
    (reason : HostFailure)
    (valid : name.toList.contains '\x00' = false)
    (isPath : (Shell.ofText name).contains '/' = true)
    (fails : machine.startFailure? (Shell.Program.atPath machine.world.tree machine.directory
      (Shell.ofText name)) = some reason) :
    machine.startShell name =
      (.error (if reason = .missing then .missing else .other reason), machine) := by
  have found : machine.foundPrograms (Shell.ofText name) =
      [Shell.Program.atPath machine.world.tree machine.directory (Shell.ofText name)] := by
    rw [foundPrograms, if_pos isPath]
  simp only [startShell, valid, found, List.map_singleton, fails]
  cases reason <;> rfl

theorem startShell_root : noted.startShell "/" = (.error (.other .refused), noted) := by
  refine startShell_of_path .refused (by decide) (by decide) ?_
  have text : Shell.toText (Shell.ofText "/") = "/" := by decide
  have parts : Path.parts "/" = ["", ""] := by decide
  have valid : FileTree.textFailure? "/" = none := by decide
  have start : FileTree.start noted.directory "/" = [] := ite_self []
  have located : noted.world.tree.locate noted.directory "/" = .ok [] := by
    simp [FileTree.locate, valid, start, parts, FileTree.follow, FileTree.followLinks,
      FileTree.node?]
  simp [Shell.Program.atPath, text, located, FileTree.node?, startFailure?]

theorem startShell_absent : noted.startShell "/none" = (.error .missing, noted) := by
  refine startShell_of_path .missing (by decide) (by decide) ?_
  have text : Shell.toText (Shell.ofText "/none") = "/none" := by decide
  have parts : Path.parts "/none" = ["", "none"] := by decide
  have valid : FileTree.textFailure? "/none" = none := by decide
  have start : FileTree.start noted.directory "/none" = [] := ite_self []
  have short : ¬FileTree.longestName < "none".utf8ByteSize := by decide
  have root : noted.world.tree.node? [] = some (.directory .directory) := rfl
  have nothing : noted.world.tree.node? ["none"] = none := by decide
  have located : noted.world.tree.locate noted.directory "/none" = .error .missing := by
    simp [FileTree.locate, valid, start, parts, FileTree.follow, FileTree.followLinks, root,
      nothing, short]
  simp [Shell.Program.atPath, text, located, startFailure?, failureOf]

end Machine
end Snippets
