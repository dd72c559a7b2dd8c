/-!
# Paths

A path is a root and the names on the way from it.  Empty names and single dots are
dropped when a path is read; two dots stay, because what they lead to depends on the
files.
-/

namespace Snippets

/-- A way through a file tree. -/
structure Path where
  /-- One slash for an absolute path, two where a path starts with exactly two, and
  nothing for a relative path. -/
  root : String
  /-- The names in order. -/
  names : List String
  deriving DecidableEq, Repr

namespace Path

/-- The parts of a text between its slashes, after those already found and the part
at hand, both in reverse. -/
def partsFrom (part : List Char) (found : List (List Char)) : List Char → List (List Char)
  | [] => (part.reverse :: found).reverse
  | '/' :: rest => partsFrom [] (part.reverse :: found) rest
  | character :: rest => partsFrom (character :: part) found rest

/-- The parts of a text between its slashes. -/
def parts (text : String) : List String :=
  (partsFrom [] [] text.toList).map String.ofList

/-- The root of a path. -/
def rootOf : List Char → String
  | '/' :: '/' :: '/' :: _ => "/"
  | '/' :: '/' :: _ => "//"
  | '/' :: _ => "/"
  | _ => ""

/-- Reads a path. -/
def ofText (text : String) : Path where
  root := rootOf text.toList
  names := (parts text).filter fun part => part != "" && part != "."

/-- Writes a path.  The empty relative path is a dot. -/
def text (path : Path) : String :=
  if path.root = "" ∧ path.names = [] then "."
  else path.root ++ "/".intercalate path.names

/-- Whether a path starts at a root. -/
def isAbsolute (path : Path) : Bool :=
  path.root != ""

/-- The path that leads on from another one. -/
def append (base path : Path) : Path :=
  if path.isAbsolute then path else ⟨base.root, base.names ++ path.names⟩

/-- The last name of a path, empty if there is none. -/
def name (path : Path) : String :=
  path.names.getLast?.getD ""

/-- The part of a name from its last dot on.  A dot at the start or at the end of the
name does not count. -/
def suffixOf (name : List Char) : List Char :=
  let tail := name.reverse.takeWhile (· != '.')
  let start := name.length - tail.length
  if start ≤ 1 ∨ tail = [] then [] else '.' :: tail.reverse

/-- The suffix of the last name of a path. -/
def suffix (path : Path) : String :=
  String.ofList (suffixOf path.name.toList)

/-- The names of a path with each pair of dots and the name before it left out. -/
def collapse (names : List String) : List String :=
  (names.foldl (fun before name => if name = ".." then before.drop 1 else name :: before)
    []).reverse

end Path
end Snippets
