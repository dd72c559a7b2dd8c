import Snippets.Files.Path

/-!
# File trees

A file tree is a list of directories, files and links, each under the names that lead to
it from the root.  A path is followed name by name; on the way every name has to lead to
a directory, and a link gives way to the path that it holds.
-/

namespace Snippets

/-- What is known about a node besides what it holds. -/
structure NodeTraits where
  /-- The rights to the node, as bits. -/
  mode : Nat
  /-- The time of the last change, in microseconds. -/
  modified : Int
  /-- The number that all names of a file share, zero for a file with one name. -/
  identity : Nat
  deriving DecidableEq, Repr

namespace NodeTraits

/-- The traits of a file that everybody may read. -/
def file : NodeTraits := ⟨0o644, 0, 0⟩

/-- The traits of a directory that everybody may enter. -/
def directory : NodeTraits := ⟨0o755, 0, 0⟩

/-- The traits of a program. -/
def program : NodeTraits := ⟨0o755, 0, 0⟩

end NodeTraits

/-- Why what a file holds cannot be read. -/
inductive ReadFailure where
  /-- The file must not be opened. -/
  | refused
  /-- The file is opened, but its disk does not give away what is on it. -/
  | broken
  deriving DecidableEq, Repr

namespace ReadFailure

/-- The words of the system for a failure. -/
def words : ReadFailure → String
  | refused => "Permission denied"
  | broken => "Input/output error"

end ReadFailure

/-- What is found at the end of a path. -/
inductive FileNode where
  /-- A directory. -/
  | directory (traits : NodeTraits)
  /-- A file and its bytes. -/
  | file (content : List UInt8) (traits : NodeTraits)
  /-- A file that cannot be read, and why. -/
  | unreadable (failure : ReadFailure) (traits : NodeTraits)
  /-- A link and the path that it holds. -/
  | link (target : String) (traits : NodeTraits)
  deriving DecidableEq

namespace FileNode

/-- Whether a node is a directory. -/
def isDirectory : FileNode → Bool
  | directory _ => true
  | _ => false

/-- Whether a node is a file, one that can be read or not. -/
def isFile : FileNode → Bool
  | file _ _ => true
  | unreadable _ _ => true
  | _ => false

/-- Whether a node is a link. -/
def isLink : FileNode → Bool
  | link _ _ => true
  | _ => false

/-- What is known about a node besides what it holds. -/
def traits : FileNode → NodeTraits
  | directory traits => traits
  | file _ traits => traits
  | unreadable _ traits => traits
  | link _ traits => traits

/-- A node with other traits. -/
def withTraits (traits : NodeTraits) : FileNode → FileNode
  | directory _ => directory traits
  | file content _ => file content traits
  | unreadable failure _ => unreadable failure traits
  | link target _ => link target traits

/-- Whether a node is a file that can be run. -/
def isProgram : FileNode → Bool
  | file _ traits => traits.mode &&& 0o111 != 0
  | _ => false

end FileNode

/-- Why a path leads nowhere. -/
inductive LookupFailure where
  /-- There is nothing of that name. -/
  | missing
  /-- A name before the last one is a file. -/
  | notDirectory
  /-- A name, or the path as a whole, is longer than a file system allows. -/
  | tooLong
  /-- A path holds a character that no name may hold. -/
  | invalid
  /-- A path leads through more links than a file system allows. -/
  | tooManyLinks
  deriving DecidableEq, Repr

/-- Nodes under their names. -/
structure FileTree where
  /-- The names from the root and the node they lead to. -/
  nodes : List (List String × FileNode)

namespace FileTree

/-- The number of bytes that a name may have. -/
def longestName : Nat := 255

/-- The number of bytes that a path may have. -/
def longestPath : Nat := 4095

/-- The number of links that a path may lead through. -/
def mostLinks : Nat := 40

/-- A tree with nothing but its root. -/
def empty : FileTree :=
  ⟨[]⟩

/-- The node under names from the root. -/
def node? (tree : FileTree) (names : List String) : Option FileNode :=
  if names = [] then some (.directory .directory) else tree.nodes.lookup names

/-- Where the names of a path start that is written in a directory. -/
def start (directory : List String) (text : String) : List String :=
  if text.toList.head? = some '/' then [] else directory

/-- Follows names from a directory, which is given by the names that lead to it, through at
most a number of links. -/
def followLinks (tree : FileTree) (links : Nat) (directory : List String) :
    List String → Except LookupFailure (List String)
  | [] => .ok directory
  | name :: rest =>
      match tree.node? directory with
      | some (.directory _) =>
          if name = "" ∨ name = "." then followLinks tree links directory rest
          else if name = ".." then followLinks tree links directory.dropLast rest
          else if longestName < name.utf8ByteSize then .error .tooLong
          else
            match tree.node? (directory ++ [name]) with
            | none => .error .missing
            | some (.link target _) =>
                match links with
                | 0 => .error .tooManyLinks
                | links + 1 =>
                    followLinks tree links (start directory target) (Path.parts target ++ rest)
            | some _ => followLinks tree links (directory ++ [name]) rest
      | some _ => .error .notDirectory
      | none => .error .missing
termination_by names => (links, names.length)

/-- Follows names from a directory, which is given by the names that lead to it. -/
def follow (tree : FileTree) (directory names : List String) :
    Except LookupFailure (List String) :=
  tree.followLinks mostLinks directory names

/-- What is wrong with the text of a path, whatever the files. -/
def textFailure? (text : String) : Option LookupFailure :=
  if text.toList.contains '\x00' then some .invalid
  else if text = "" then some .missing
  else if longestPath < text.utf8ByteSize then some .tooLong
  else none

/-- Where the text of a path leads from a directory. -/
def locate (tree : FileTree) (directory : List String) (text : String) :
    Except LookupFailure (List String) :=
  match textFailure? text with
  | some failure => .error failure
  | none => tree.follow (start directory text) (Path.parts text)

/-- The node to which the text of a path leads from a directory. -/
def lookup (tree : FileTree) (directory : List String) (text : String) :
    Except LookupFailure FileNode := do
  let names ← tree.locate directory text
  match tree.node? names with
  | some node => .ok node
  | none => .error .missing

/-- The names under which a path of the given text is found or could be made: all names but
the last one have to lead to a directory.  A link at the end is not followed. -/
def placeSelf (tree : FileTree) (directory : List String) (text : String) :
    Except LookupFailure (List String) :=
  match (Path.parts text).reverse.dropWhile (· == "") with
  | [] => tree.locate directory text
  | name :: before =>
      if name = "." ∨ name = ".." then tree.locate directory text
      else if longestName < name.utf8ByteSize then .error .tooLong
      else
        match textFailure? text with
        | some failure => .error failure
        | none =>
            match tree.follow (start directory text) before.reverse with
            | .error failure => .error failure
            | .ok names =>
                match tree.node? names with
                | some (.directory _) => .ok (names ++ [name])
                | some _ => .error .notDirectory
                | none => .error .missing

/-- The names under which a path of the given text is found or could be made, through at
most a number of links at its end. -/
def placeLinks (tree : FileTree) (directory : List String) (text : String) :
    Nat → Except LookupFailure (List String)
  | 0 => .error .tooManyLinks
  | links + 1 =>
      match tree.placeSelf directory text with
      | .error failure => .error failure
      | .ok names =>
          match tree.node? names with
          | some (.link target _) => placeLinks tree names.dropLast target links
          | _ => .ok names

/-- The names under which a path of the given text is found or could be made. -/
def place (tree : FileTree) (directory : List String) (text : String) :
    Except LookupFailure (List String) :=
  tree.placeLinks directory text mostLinks

/-- Removes the node under some names. -/
def remove (tree : FileTree) (names : List String) : FileTree :=
  ⟨tree.nodes.filter fun entry => entry.1 != names⟩

/-- Puts a node under some names, in place of any node that is there. -/
def put (tree : FileTree) (names : List String) (node : FileNode) : FileTree :=
  ⟨(tree.remove names).nodes ++ [(names, node)]⟩

/-- Changes the node under some names, and under all other names of the same file. -/
def replace (tree : FileTree) (names : List String) (node : FileNode) : FileTree :=
  let identity := node.traits.identity
  ⟨tree.nodes.map fun entry =>
    if entry.1 = names ∨ (identity ≠ 0 ∧ entry.2.traits.identity = identity) then (entry.1, node)
    else entry⟩

/-- Puts directories where the names lead through nothing. -/
def putDirectories (tree : FileTree) (names : List String) : FileTree :=
  (List.range names.length).foldl
    (fun result count =>
      let start := names.take (count + 1)
      if (result.node? start).isSome then result
      else result.put start (.directory .directory))
    tree

/-- The names in a directory, in ascending order. -/
def children (tree : FileTree) (directory : List String) : List String :=
  (tree.nodes.filterMap fun entry =>
    if entry.1.dropLast = directory ∧ entry.1 ≠ [] then entry.1.getLast? else none).mergeSort
    fun first second => decide (first ≤ second)

/-- Moves a node, and all nodes below it, to other names. -/
def move (tree : FileTree) (source target : List String) : FileTree :=
  let moved := tree.nodes.filterMap fun entry =>
    if source.isPrefixOf entry.1 then
      some (target ++ entry.1.drop source.length, entry.2)
    else none
  ⟨(tree.nodes.filter fun entry =>
      !source.isPrefixOf entry.1 && !target.isPrefixOf entry.1) ++ moved⟩

end FileTree
end Snippets
