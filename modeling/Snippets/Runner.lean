import Snippets.Issue
import Snippets.Text.Utf8

/-!
# Runners

A runner says how code in a language is run: a command line with a placeholder for
the path of the file that holds the code, and the extension of that file's name.
-/

namespace Snippets

/-- A command template and a file extension. -/
structure Runner where
  /-- The command line, with a placeholder for the path of the code. -/
  command : String
  /-- The extension of the file, with its dot. -/
  ext : String
  deriving DecidableEq, Repr

namespace Runner

/-- The text that stands for the path of the code. -/
def placeholder : String := "\x7bfile\x7d"

/-- The pieces of a template between its placeholders, after those already found
and the piece at hand, both in reverse. -/
def piecesFrom (piece : List Char) (found : List (List Char)) : List Char → List (List Char)
  | [] => (piece.reverse :: found).reverse
  | '\x7b' :: 'f' :: 'i' :: 'l' :: 'e' :: '\x7d' :: rest =>
      piecesFrom [] (piece.reverse :: found) rest
  | character :: rest => piecesFrom (character :: piece) found rest

/-- The pieces of a template between its placeholders, read from left to right. -/
def pieces (template : String) : List (List Char) :=
  piecesFrom [] [] template.toList

/-- Whether a template has a placeholder. -/
def hasPlaceholder (template : String) : Bool :=
  1 < (pieces template).length

/-- The command line for the code at a path. -/
def render (runner : Runner) (path : String) : String :=
  String.ofList (path.toList.intercalate (pieces runner.command))

/-- Whether a text is an extension: a dot and more, but no path separator. -/
def isExtension (ext : String) : Bool :=
  ext.toList.head? == some '.' && !ext.toList.contains '/' && !ext.toList.contains '\\'

/-- The name of the schema of a runner. -/
def schemaName : String := "RunnerDefinition"

/-- Takes a value as a text.  Bytes are taken as the text that they encode. -/
def checkText : Datum → Checked String
  | .text value => .ok value
  | .brokenText _ => .fail .notUnicode
  | .bytes value =>
      match Text.decodeUtf8 value with
      | some characters => .ok (String.ofList characters)
      | none => .fail .notUnicode
  | _ => .fail .notText

/-- Takes a value as a text of a least length. -/
def checkTextOfLength (least : Nat) (value : Datum) : Checked String := do
  let text ← checkText value
  if text.length < least then .fail (.tooShort least) else .ok text

/-- Checks a command template. -/
def checkCommand (value : Datum) : Checked String := do
  let command ← checkTextOfLength 1 value
  if hasPlaceholder command then .ok command
  else
    .fail (.refused ("Command template must contain " ++ placeholder ++ ": " ++
      Text.quoted command))

/-- Checks a file extension. -/
def checkExt (value : Datum) : Checked String := do
  let ext ← checkTextOfLength 2 value
  if isExtension ext then .ok ext
  else .fail (.refused ("Extension must look like '.py', got " ++ Text.quoted ext))

/-- Checks a required entry of a mapping. -/
def checkEntry {α : Type} (name : String) (check : Datum → Checked α)
    (entries : List (Datum × Datum)) : Checked α :=
  Checked.under (.key name) <|
    match Datum.field? name entries with
    | some value => check value
    | none => .fail .missing

/-- Checks a runner.  Entries that a runner does not have are passed over. -/
def check : Datum → Checked Runner
  | .mapping entries =>
      match checkEntry "command" checkCommand entries, checkEntry "ext" checkExt entries with
      | .ok command, .ok ext => .ok ⟨command, ext⟩
      | command, ext => .error (command.issues ++ ext.issues)
  | _ => .fail (.notSchema schemaName)

end Runner
end Snippets
