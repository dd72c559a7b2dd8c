import Snippets.Config.Lenient
import Snippets.Document
import Snippets.Text.Lowercase

/-!
# Requests

The arguments of the command line: a command, its options in any order, and a file.  An
option with a long name takes its value after an equals sign or from the next argument; one
with a short name, from the rest of its argument or from the next one.  Two dashes end the
options.
-/

namespace Snippets
namespace CommandLine

/-- What a command is about: a file and how it is taken. -/
structure Subject where
  /-- The path of the file. -/
  file : String
  /-- The language that is given. -/
  language : Option String
  /-- The kind that is given. -/
  kind : Option DocumentKind
  /-- The path of the configuration. -/
  config : Option String
  deriving DecidableEq, Repr

/-- What is to be run, and how. -/
structure RunRequest where
  /-- The file. -/
  subject : Subject
  /-- The line of the block, counted from one. -/
  line : Option Nat
  /-- The number of the block, counted from one. -/
  index : Option Nat
  /-- Whether nothing is said about a run that goes well. -/
  quiet : Bool
  deriving DecidableEq, Repr

/-- What is asked for. -/
inductive Request where
  /-- The blocks of a file. -/
  | list (subject : Subject)
  /-- A run of a block. -/
  | run (request : RunRequest)
  /-- The runners. -/
  | runners (config : Option String)
  /-- An explanation of the commands. -/
  | help
  deriving DecidableEq, Repr

/-- An option. -/
inductive Flag where
  /-- The language of the file. -/
  | language
  /-- The kind of the file. -/
  | kind
  /-- The path of the configuration. -/
  | config
  /-- The line of the block. -/
  | line
  /-- The number of the block. -/
  | index
  /-- More is logged. -/
  | verbose
  /-- Less is said. -/
  | quiet
  /-- The commands are explained. -/
  | help
  deriving DecidableEq, Repr

namespace Flag

/-- The long name of an option. -/
def longName : Flag → String
  | language => "--language"
  | kind => "--kind"
  | config => "--config"
  | line => "--line"
  | index => "--index"
  | verbose => "--verbose"
  | quiet => "--quiet"
  | help => "--help"

/-- The short name of an option, if it has one. -/
def letter? : Flag → Option Char
  | language => some 'l'
  | kind => some 'k'
  | config => some 'c'
  | line => some 'n'
  | index => some 'i'
  | verbose => some 'v'
  | quiet => some 'q'
  | help => none

/-- Whether an option has a value. -/
def takesValue : Flag → Bool
  | verbose | quiet | help => false
  | _ => true

/-- The options of the command that lists blocks. -/
def ofList : List Flag := [language, kind, config, verbose, quiet, help]

/-- The options of the command that runs a block. -/
def ofRun : List Flag := [line, index, language, kind, config, verbose, quiet, help]

/-- The options of the command that shows runners. -/
def ofRunners : List Flag := [config, verbose, quiet, help]

end Flag

/-- Arguments as options with their values and other arguments, both in order. -/
structure Arguments where
  /-- The options. -/
  flags : List (Flag × String)
  /-- The other arguments. -/
  operands : List String
  deriving DecidableEq, Repr

namespace Arguments

/-- Adds an option. -/
def addFlag (flag : Flag) (value : String) (arguments : Arguments) : Arguments :=
  { arguments with flags := arguments.flags ++ [(flag, value)] }

/-- Adds other arguments. -/
def addOperands (operands : List String) (arguments : Arguments) : Arguments :=
  { arguments with operands := arguments.operands ++ operands }

/-- Reads the letters of short options.  What follows an option with a value is its value,
and if nothing does, the next argument is. -/
def letters (known : List Flag) :
    Arguments → List Char → List String → Option (Arguments × List String)
  | found, [], rest => some (found, rest)
  | found, letter :: more, rest =>
      match known.find? fun flag => flag.letter? = some letter with
      | none => none
      | some flag =>
          if !flag.takesValue then letters known (found.addFlag flag "") more rest
          else if more ≠ [] then some (found.addFlag flag (String.ofList more), rest)
          else
            match rest with
            | value :: rest => some (found.addFlag flag value, rest)
            | [] => none

/-- Reads a long option. -/
def long (known : List Flag) (found : Arguments) (argument : List Char) (rest : List String) :
    Option (Arguments × List String) :=
  let name := argument.takeWhile (· != '=')
  let value := if name.length = argument.length then none
    else some (String.ofList (argument.drop (name.length + 1)))
  match known.find? fun flag => flag.longName = String.ofList name with
  | none => none
  | some flag =>
      match flag.takesValue, value, rest with
      | true, some value, rest => some (found.addFlag flag value, rest)
      | true, none, value :: rest => some (found.addFlag flag value, rest)
      | true, none, [] => none
      | false, some _, _ => none
      | false, none, rest => some (found.addFlag flag "", rest)

/-- Reads arguments after those found.  Each step reads at least one. -/
def readFrom (known : List Flag) : Nat → Arguments → List String → Option Arguments
  | _, found, [] => some found
  | 0, _, _ => none
  | fuel + 1, found, argument :: rest =>
      match argument.toList with
      | ['-', '-'] => some (found.addOperands rest)
      | '-' :: '-' :: name =>
          match long known found ('-' :: '-' :: name) rest with
          | some (found, rest) => readFrom known fuel found rest
          | none => none
      | '-' :: letter :: more =>
          match letters known found (letter :: more) rest with
          | some (found, rest) => readFrom known fuel found rest
          | none => none
      | _ => readFrom known fuel (found.addOperands [argument]) rest

/-- Reads arguments. -/
def read (known : List Flag) (arguments : List String) : Option Arguments :=
  readFrom known arguments.length ⟨[], []⟩ arguments

/-- Whether an option is given. -/
def has (flag : Flag) (arguments : Arguments) : Bool :=
  arguments.flags.any fun entry => entry.1 = flag

/-- The value of an option that was given last. -/
def value? (flag : Flag) (arguments : Arguments) : Option String :=
  arguments.flags.reverse.lookup flag

/-- The value of an option, which has to be readable if the option is given. -/
def readValue {α : Type} (flag : Flag) (reader : String → Option α) (arguments : Arguments) :
    Option (Option α) :=
  match arguments.value? flag with
  | none => some none
  | some text => (reader text).map some

/-- A whole number from one on, read as leniently as that of a configuration. -/
def positive? (text : String) : Option Nat :=
  match Lenient.intOfText text.toList with
  | .ok value => if 1 ≤ value then some value.toNat else none
  | .error _ => none

/-- The kind of a name in any case. -/
def kind? (text : String) : Option DocumentKind :=
  DocumentKind.ofName? (Text.lowercase text)

/-- The subject of a command, which needs exactly one file. -/
def subject? (arguments : Arguments) : Option Subject := do
  let kind ← arguments.readValue .kind kind?
  match arguments.operands with
  | [file] => return ⟨file, arguments.value? .language, kind, arguments.value? .config⟩
  | _ => none

end Arguments

namespace Request

/-- The request to list blocks. -/
def list? (arguments : Arguments) : Option Request :=
  arguments.subject?.map list

/-- The request to run a block. -/
def run? (arguments : Arguments) : Option Request := do
  let subject ← arguments.subject?
  let line ← arguments.readValue .line Arguments.positive?
  let index ← arguments.readValue .index Arguments.positive?
  return .run ⟨subject, line, index, arguments.has .quiet⟩

/-- The request to show runners. -/
def runners? (arguments : Arguments) : Option Request :=
  if arguments.operands.isEmpty then some (.runners (arguments.value? .config)) else none

/-- The arguments from the command on, and whether the explanation of the commands is asked
for before them.  Nothing else can be asked for there. -/
def beforeCommand (isHelp : Bool) : List String → Option (Bool × List String)
  | [] => some (isHelp, [])
  | "--" :: rest => some (isHelp, rest)
  | "-" :: rest => some (isHelp, "-" :: rest)
  | "--help" :: rest => beforeCommand true rest
  | argument :: rest =>
      if argument.toList.head? = some '-' then none else some (isHelp, argument :: rest)

/-- The request that a command makes with its arguments. -/
def ofCommand? : List String → Option Request
  | "list" :: rest => build Flag.ofList list? rest
  | "run" :: rest => build Flag.ofRun run? rest
  | "runners" :: rest => build Flag.ofRunners runners? rest
  | _ => none
where
  /-- The request of a command with some options. -/
  build (known : List Flag) (make : Arguments → Option Request) (rest : List String) :
      Option Request := do
    let found ← Arguments.read known rest
    if found.has .help then some .help else make found

/-- The request that arguments make.  There is none if they are wrong. -/
def ofArguments? (arguments : List String) : Option Request := do
  let (isHelp, rest) ← beforeCommand false arguments
  if isHelp then some .help else ofCommand? rest

/-- The files that a request names. -/
def files : Request → List String
  | .list subject => subject.file :: subject.config.toList
  | .run request => request.subject.file :: request.subject.config.toList
  | .runners config => config.toList
  | .help => []

end Request
end CommandLine
end Snippets
