import Snippets.CommandLine.Report
import Snippets.CommandLine.Request
import Snippets.Detection
import Snippets.DocumentFile

/-!
# What a command works on

The configuration, the document and the block that a request leads to, or why it leads to
none.
-/

namespace Snippets
namespace CommandLine

/-- Why a request leads to nothing. -/
inductive Refusal where
  /-- Both a line and a number are given, or neither of them. -/
  | selection
  /-- There is no configuration. -/
  | config (failure : Config.LoadFailure)
  /-- There is no such file. -/
  | fileMissing (file : String)
  /-- There is a directory in place of the file. -/
  | fileDirectory (file : String)
  /-- The file yields no document. -/
  | document (failure : DocumentFile.LoadFailure)
  /-- No block contains the line. -/
  | noBlockAt (line : Nat)
  /-- There are fewer blocks than the number. -/
  | noBlock (number count : Nat)
  /-- The path of the file is unusable. -/
  | unusable (failure : Escape)
  deriving DecidableEq, Repr

namespace Refusal

/-- The messages for issues with a configuration. -/
def issueMessages (issues : List Issue) : List Message :=
  issues.map fun issue =>
    ⟨.error, "  " ++ ".".intercalate (issue.path.map PathStep.text) ++ ": " ++
      issue.fault.message⟩

/-- The messages for a failure to load the configuration. -/
def configMessages (failure : Config.LoadFailure) (text : String) : List Message :=
  ⟨.error, text⟩ ::
    (match failure with
     | .invalid _ issues => issueMessages issues
     | _ => [])

/-- What is reported on a refusal. -/
def report : Refusal → Report
  | selection =>
      .saying [⟨.error, "Specify exactly one of --line or --index"⟩] Report.wrongUse
  | config failure =>
      match failure.message? with
      | some text => .saying (configMessages failure text) Report.wrongUse
      | none => .escaping (.config failure)
  | fileMissing file => .saying [⟨.error, "File not found: " ++ file⟩] Report.failure
  | fileDirectory file =>
      .saying [⟨.error, "Expected a file, got directory: " ++ file⟩] Report.failure
  | document failure =>
      match failure with
      | .unknown failure => .escaping (.path failure)
      | failure => .saying [⟨.error, failure.message?.getD ""⟩] Report.failure
  | noBlockAt line =>
      .saying [⟨.info, "No runnable code block found at line " ++ toString line⟩]
        Report.failure
  | noBlock number count =>
      .saying [⟨.error, "Block #" ++ toString number ++ " does not exist (" ++
        toString count ++ " block(s) found)"⟩] Report.failure
  | unusable failure => .escaping failure

end Refusal

/-- The configuration of a request.  An empty path counts as none. -/
def loadConfig (environment : Environment) (path : Option String) : Except Refusal Config :=
  let path := (path.filter (· ≠ "")).map Path.ofText
  (Config.load environment path).mapError Refusal.config

/-- The absolute path of the file of a request, which has to lead to a file. -/
def filePath (environment : Environment) (file : String) : Except Refusal Path :=
  match environment.expandHome (Path.ofText file) with
  | .error failure => .error (.unusable (.path failure))
  | .ok path =>
      if path.text.toList.contains '\x00' then .error (.unusable .invalidPath)
      else
        let path := environment.resolve path
        match environment.node? path with
        | .error failure => .error (.unusable (.path failure))
        | .ok none => .error (.fileMissing file)
        | .ok (some node) => if node.isFile then .ok path else .error (.fileDirectory file)

/-- The document of a request. -/
def loadDocument (environment : Environment) (subject : Subject) : Except Refusal Document := do
  let path ← filePath environment subject.file
  (DocumentFile.load environment path subject.language subject.kind).mapError Refusal.document

/-- A configuration, a document, and the blocks of the document that it has runners for. -/
structure Opened where
  /-- The configuration. -/
  config : Config
  /-- The document. -/
  document : Document
  /-- The blocks. -/
  blocks : List Block
  deriving DecidableEq

/-- Opens the file of a request. -/
def openSubject (environment : Environment) (subject : Subject) : Except Refusal Opened := do
  let config ← loadConfig environment subject.config
  let document ← loadDocument environment subject
  return ⟨config, document, document.blocks config.registry.contains⟩

/-- The block at a line, or of a number, both counted from one. -/
def selectBlock (blocks : List Block) : Option Nat → Option Nat → Except Refusal Block
  | some line, none =>
      match Block.atLine? blocks ((line : Int) - 1) with
      | some block => .ok block
      | none => .error (.noBlockAt line)
  | none, some number =>
      match blocks[number - 1]? with
      | some block => .ok block
      | none => .error (.noBlock number blocks.length)
  | _, _ => .error .selection

/-- What a request to run leads to: an opened file and a block of it. -/
def target (environment : Environment) (request : RunRequest) :
    Except Refusal (Opened × Block) := do
  if request.line.isSome = request.index.isSome then throw .selection
  let opened ← openSubject environment request.subject
  let block ← selectBlock opened.blocks request.line request.index
  return (opened, block)

end CommandLine
end Snippets
