import Snippets.Config.Check
import Snippets.Environment
import Snippets.Text.Piecewise
import Snippets.Yaml.Value

/-!
# Where a configuration comes from

A path that is given counts most, then a variable of the environment, then a file in the
working directory.  Only the first of these sources that is there is read, and without
any of them every choice has its default.
-/

namespace Snippets
namespace Config

/-- The variable that names a file. -/
def variableName : String := "BLOCKRUN_CONFIG"

/-- The name of the file in the working directory. -/
def fileName : String := ".blockrun.yaml"

/-- The greatest number of characters of a file. -/
def greatestSize : Nat := 1024 * 1024

/-- Why there is no configuration. -/
inductive LoadFailure where
  /-- The path that is given leads nowhere. -/
  | notFound (path : Path)
  /-- The path in the variable leads nowhere. -/
  | variableNotFound (path : Path)
  /-- The path leads to a directory. -/
  | notFile (path : Path)
  /-- The file cannot be read. -/
  | cannotRead (path : Path) (failure : ReadFailure)
  /-- The file is too large. -/
  | tooLarge (path : Path)
  /-- The file is not well-formed. -/
  | malformed (path : Path)
  /-- The file holds a value of another kind than a mapping. -/
  | notMapping (kind : String)
  /-- The mapping in the file is not a configuration. -/
  | invalid (path : Path) (issues : List Issue)
  /-- The bytes that are read of the file encode no text. -/
  | notText
  /-- The file holds a scalar without a value. -/
  | unreadable (failure : Yaml.Failure)
  /-- Whether there is a file cannot be told. -/
  | unknown (failure : PathFailure)
  deriving DecidableEq, Repr

namespace LoadFailure

/-- The message for a failure, if the failure is one of the documented ones. -/
def message? : LoadFailure → Option String
  | notFound path => some ("Config file not found: " ++ path.text)
  | variableNotFound path =>
      some ("Config file from $" ++ variableName ++ " not found: " ++ path.text)
  | notFile path => some ("Config path is not a file: " ++ path.text)
  | cannotRead path failure =>
      some ("Cannot read config " ++ path.text ++ ": " ++ failure.text path)
  | tooLarge path => some ("Config " ++ path.text ++ " exceeds 1MB limit")
  | malformed path => some ("Invalid YAML in " ++ path.text)
  | notMapping kind => some ("Config must be a YAML mapping, got " ++ kind)
  | invalid path issues =>
      some ("Invalid config " ++ path.text ++ ": " ++ toString issues.length ++ " error(s)")
  | notText => none
  | unreadable _ => none
  | unknown _ => none

end LoadFailure

/-- The node at the end of a path, with the failure for a path that leads nowhere. -/
def nodeAt (environment : Environment) (path : Path) (missing : LoadFailure) :
    Except LoadFailure FileNode :=
  match environment.node? path with
  | .ok (some node) => .ok node
  | .ok none => .error missing
  | .error failure => .error (.unknown failure)

/-- The path that the variable of the environment holds, if it holds one. -/
def variablePath? (environment : Environment) : Option Path :=
  let text := Text.strip ((environment.valueOf? variableName).getD "")
  if text = "" then none else some (Path.ofText text)

/-- The path of the file in the working directory. -/
def localPath (environment : Environment) : Path :=
  environment.here.append (Path.ofText fileName)

/-- The path of the source that counts and what is there, if there is a source. -/
def source (environment : Environment) (explicit : Option Path) :
    Except LoadFailure (Option (Path × FileNode)) := do
  match explicit, variablePath? environment with
  | some path, _ => return some (path, ← nodeAt environment path (.notFound path))
  | none, some path =>
      match environment.expandHome path with
      | .error failure => throw (.unknown failure)
      | .ok path => return some (path, ← nodeAt environment path (.variableNotFound path))
  | none, none =>
      let path := localPath environment
      match environment.node? path with
      | .ok (some node) => return if node.isFile then some (path, node) else none
      | .ok none => return none
      | .error failure => throw (.unknown failure)

/-- The configuration that a value stands for.  No value stands for the defaults. -/
def ofDatum (path : Path) (value : Datum) : Except LoadFailure Config :=
  match value with
  | .null => .ok {}
  | .mapping entries => (checkEntries entries).mapError (.invalid path)
  | other => .error (.notMapping other.kindName)

/-- The configuration in the content of a file.  Of a file that is too large no more is read
than it takes to tell so. -/
def ofContent (path : Path) (content : List UInt8) : Except LoadFailure Config :=
  match Text.readUpTo (greatestSize + 1) content with
  | none => .error .notText
  | some text =>
      if greatestSize < text.length then .error (.tooLarge path)
      else
        match Yaml.read text with
        | .ok value => ofDatum path value
        | .error .malformed => .error (.malformed path)
        | .error failure => .error (.unreadable failure)

/-- Loads the configuration. -/
def load (environment : Environment) (explicit : Option Path) : Except LoadFailure Config := do
  match ← source environment explicit with
  | none => return {}
  | some (path, .file content _) => ofContent path content
  | some (path, .unreadable failure _) => throw (.cannotRead path failure)
  | some (path, _) => throw (.notFile path)

end Config
end Snippets
