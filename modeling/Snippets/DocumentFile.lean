import Snippets.Environment
import Snippets.Document
import Snippets.Language
import Snippets.Text.Utf8

/-!
# Documents in files

The suffix of a file's name tells the kind and the language of the document in it.
The file is read as UTF-8, with every line break read as a line feed.
-/

namespace Snippets
namespace DocumentFile

/-- The suffixes of documents made of fenced blocks, in lower case. -/
def taggedSuffixes : List String := [".md", ".markdown", ".mdx"]

/-- The languages of other suffixes in lower case. -/
def languageOfSuffix : List (String × String) :=
  [(".py", "python"), (".pyw", "python"), (".js", "javascript"), (".mjs", "javascript"),
   (".cjs", "javascript"), (".ts", "typescript"), (".sh", "shellscript"),
   (".bash", "shellscript"), (".zsh", "shellscript"), (".rb", "ruby"), (".go", "go"),
   (".rs", "rust"), (".java", "java"), (".c", "c"), (".h", "c"), (".cpp", "cpp"),
   (".cc", "cpp"), (".cxx", "cpp"), (".hpp", "cpp"), (".php", "php"), (".pl", "perl"),
   (".lua", "lua"), (".r", "r")]

/-- The kind of the document at a path. -/
def kindOf (path : Path) : DocumentKind :=
  if taggedSuffixes.contains (Text.lowercase path.suffix) then .tagged else .plain

/-- The language of the document at a path. -/
def languageOf (path : Path) : String :=
  let suffix := Text.lowercase path.suffix
  if taggedSuffixes.contains suffix then Language.markdown
  else (languageOfSuffix.lookup suffix).getD Language.plaintext

/-- Why a file yields no document. -/
inductive LoadFailure where
  /-- There is no such file. -/
  | notFound (path : Path)
  /-- The path leads to a directory. -/
  | notFile (path : Path)
  /-- The file cannot be read. -/
  | cannotRead (path : Path) (failure : ReadFailure)
  /-- The bytes of the file encode no text. -/
  | notText (path : Path)
  /-- Whether there is a file cannot be told. -/
  | unknown (failure : PathFailure)
  deriving DecidableEq, Repr

namespace LoadFailure

/-- The message for a failure, if the failure is one of the documented ones. -/
def message? : LoadFailure → Option String
  | notFound path => some ("File not found: " ++ path.text)
  | notFile path => some ("Not a file: " ++ path.text)
  | cannotRead path failure =>
      some ("Cannot read " ++ path.text ++ ": " ++ failure.text path)
  | notText path => some ("File is not valid UTF-8: " ++ path.text)
  | unknown _ => none

end LoadFailure

/-- The text of a file with unified line breaks. -/
def readText (content : List UInt8) : Option (List Char) :=
  (Text.decodeUtf8 content).map Text.unifyBreaks

/-- Loads the document at a path.  A language that is given and not empty, and a kind
that is given, take the place of those that the suffix tells. -/
def load (environment : Environment) (path : Path) (language : Option String)
    (kind : Option DocumentKind) : Except LoadFailure Document :=
  match environment.node? path with
  | .error failure => .error (.unknown failure)
  | .ok none => .error (.notFound path)
  | .ok (some (.file content _)) =>
      match readText content with
      | none => .error (.notText path)
      | some text =>
          let language :=
            match language with
            | some tag => if tag = "" then languageOf path else Language.resolve tag
            | none => languageOf path
          .ok (Document.ofText (String.ofList text) language (kind.getD (kindOf path)))
  | .ok (some (.unreadable failure _)) => .error (.cannotRead path failure)
  | .ok (some _) => .error (.notFile path)

end DocumentFile
end Snippets
