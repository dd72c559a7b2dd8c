import Snippets.Files.Tree
import Snippets.Shell.Octets
import Snippets.Shell.Quoting

/-!
# Programs

A program is given its arguments, its input and the files, and answers what it writes, its
status and the files that it leaves.
-/

namespace Snippets
namespace Shell

/-- What a program is given. -/
structure Invocation where
  /-- The name under which it was started. -/
  name : List Char
  /-- The arguments. -/
  arguments : List (List Char)
  /-- What can be read from standard input. -/
  input : List Char
  /-- Whether standard input is a file, in which a program can go back. -/
  isFile : Bool
  /-- The files. -/
  tree : FileTree
  /-- The names from the root to the working directory. -/
  directory : List String
  /-- The variables that the program sees. -/
  environment : List (List Char × List Char)
  /-- The time in microseconds. -/
  clock : Nat
  /-- The rights that new files do not have. -/
  mask : Nat
  /-- What can be read from other descriptors. -/
  descriptors : List (Nat × List Char)
  /-- The number of octets that standard output takes, if there is a limit. -/
  limit : Option Nat
  /-- The number of the process. -/
  process : Nat

/-- What a program leaves. -/
structure Outcome where
  /-- The status. -/
  status : Nat
  /-- What was written to which descriptor, the latest first. -/
  writes : List (Nat × List Char)
  /-- What is left on standard input. -/
  input : List Char
  /-- The files. -/
  tree : FileTree
  /-- The microseconds that the program waited. -/
  pause : Nat

/-- A program. -/
abbrev Tool := Invocation → Outcome

namespace Outcome

/-- Writes to a descriptor. -/
def write (descriptor : Nat) (octets : List Char) (outcome : Outcome) : Outcome :=
  if octets.isEmpty then outcome
  else { outcome with writes := (descriptor, octets) :: outcome.writes }

/-- Writes to standard output. -/
def say (octets : List Char) (outcome : Outcome) : Outcome :=
  outcome.write 1 octets

/-- Writes to standard error and sets the status. -/
def complain (octets : List Char) (status : Nat) (outcome : Outcome) : Outcome :=
  { outcome.write 2 octets with status := status }

/-- What was written to a descriptor. -/
def written (descriptor : Nat) (outcome : Outcome) : List Char :=
  (outcome.writes.reverse.filter fun entry => entry.1 = descriptor).flatMap Prod.snd

/-- Changes the files. -/
def modifyTree (change : FileTree → FileTree) (outcome : Outcome) : Outcome :=
  { outcome with tree := change outcome.tree }

/-- Sets the status. -/
def withStatus (status : Nat) (outcome : Outcome) : Outcome :=
  { outcome with status := status }

end Outcome

namespace Invocation

/-- The outcome of a program that does nothing. -/
def outcome (invocation : Invocation) : Outcome :=
  ⟨0, [], invocation.input, invocation.tree, 0⟩

/-- The outcome of a program that only prints. -/
def print (invocation : Invocation) (output : List Char) : Outcome :=
  invocation.outcome.say output

/-- The outcome of a program that only has a status. -/
def exit (invocation : Invocation) (status : Nat) : Outcome :=
  { invocation.outcome with status := status }

/-- A line on standard error. -/
def complaint (invocation : Invocation) (message : List Char) : List Char :=
  invocation.name ++ ": ".toList ++ message ++ ['\n']

/-- The outcome of a program that only complains. -/
def fail (invocation : Invocation) (message : String) (status : Nat) : Outcome :=
  invocation.outcome.complain (invocation.complaint (ofText message)) status

/-- The line that names the option which explains a program. -/
def hint (invocation : Invocation) : List Char :=
  "Try '".toList ++ invocation.name ++ " --help' for more information.\n".toList

/-- The outcome of a program that was started in a wrong way. -/
def misused (invocation : Invocation) (message : String) (status : Nat) : Outcome :=
  let message := if message = "" then [] else invocation.complaint (ofText message)
  invocation.outcome.complain (message ++ invocation.hint) status

/-- The value of a variable. -/
def valueOf? (invocation : Invocation) (name : String) : Option (List Char) :=
  invocation.environment.lookup name.toList

end Invocation

/-- The escape of an octet that is not shown as it is. -/
def escapeOf (octet : Char) : List Char :=
  let names : List (Char × Char) :=
    [('\x07', 'a'), ('\x08', 'b'), ('\t', 't'), ('\n', 'n'), ('\x0b', 'v'), ('\x0c', 'f'),
     ('\r', 'r')]
  match names.lookup octet with
  | some letter => ['\\', letter]
  | none => '\\' :: Quoting.octal octet.toNat

/-- A text between quotation marks. -/
def curly (text : List Char) : String :=
  let shown := (characters text).flatMap fun character =>
    if character = '\\' then ['\\', '\\']
    else if Quoting.isHidden character then (ofCharacters [character]).flatMap escapeOf
    else ofCharacters [character]
  "‘" ++ toText shown ++ "’"

/-- Characters in the quotes that a shell reads, after those quotes have been opened for
characters that are shown as they are, or for escapes. -/
def inQuotes : Bool → List Char → List Char
  | _, [] => ['\'']
  | isEscaped, character :: rest =>
      let octets := ofCharacters [character]
      if Quoting.isHidden character then
        (if isEscaped then [] else ['\'', '$', '\'']) ++ octets.flatMap escapeOf ++
          inQuotes true rest
      else
        (if isEscaped then ['\'', '\''] else []) ++
          (if character = '\'' then ['\'', '\\', '\'', '\''] else octets) ++
          inQuotes false rest

/-- A text in the quotes that a shell reads. -/
def straight (text : List Char) : String :=
  if text.contains '\'' ∧ !Quoting.hasHidden text ∧
      !text.any fun octet => "\"\\$\x60!".toList.contains octet then
    "\"" ++ toText text ++ "\""
  else toText ('\'' :: inQuotes false (characters text))

/-- A name as it stands in messages: in quotes where a shell or a reader would misread it. -/
def titled (text : List Char) : String :=
  let isRisky := fun octet : Char => " \t\n!\"$&'()*;<=>?[\\^\x60|:".toList.contains octet
  if text.isEmpty ∨ Quoting.hasHidden text ∨ text.any isRisky ∨
      (text.head?.any fun octet => octet = '#' || octet = '~') ∨
      text = ['\x7b'] ∨ text = ['\x7d'] then straight text
  else toText text

/-- The words for a path that leads nowhere. -/
def lookupMessage : LookupFailure → String
  | .missing => "No such file or directory"
  | .notDirectory => "Not a directory"
  | .tooLong => "File name too long"
  | .invalid => "Invalid argument"
  | .tooManyLinks => "Too many levels of symbolic links"

/-- A file that is no file on a disk. -/
inductive Device where
  /-- It holds nothing and takes everything. -/
  | null
  /-- It holds zeros without end. -/
  | zero
  /-- It takes nothing. -/
  | full
  /-- It holds octets without order and without end. -/
  | random
  /-- It stands for a descriptor. -/
  | descriptor (number : Nat)
  deriving DecidableEq, Repr

/-- The device at a path. -/
def device? (path : List Char) : Option Device :=
  match String.ofList path with
  | "/dev/null" => some .null
  | "/dev/zero" => some .zero
  | "/dev/full" => some .full
  | "/dev/random" => some .random
  | "/dev/urandom" => some .random
  | "/dev/stdin" => some (.descriptor 0)
  | "/dev/stdout" => some (.descriptor 1)
  | "/dev/stderr" => some (.descriptor 2)
  | _ =>
      if "/dev/fd/".toList.isPrefixOf path then
        (toNat? (path.drop 8)).map Device.descriptor
      else if "/proc/self/fd/".toList.isPrefixOf path then
        (toNat? (path.drop 14)).map Device.descriptor
      else none

/-- The number of octets that are read from a device without end. -/
def endless : Nat := 262144

/-- Octets without order. -/
def disorder (count : Nat) : List Char :=
  ((List.range count).foldl
    (fun (state : Nat × List Char) _ =>
      let next := (state.1 * 1103515245 + 12345) % 0x80000000
      (next, Char.ofNat (next / 0x10000 % 256) :: state.2))
    (20, [])).2

/-- The names that a path leads to. -/
def Invocation.locate (invocation : Invocation) (tree : FileTree) (path : List Char) :
    Except LookupFailure (List String) :=
  tree.locate invocation.directory (toText path)

/-- The names under which a path is found or could be made. -/
def Invocation.place (invocation : Invocation) (tree : FileTree) (path : List Char) :
    Except LookupFailure (List String) :=
  tree.place invocation.directory (toText path)

/-- The names under which a path is found or could be made, if a link at its end counts as
itself. -/
def Invocation.placeSelf (invocation : Invocation) (tree : FileTree) (path : List Char) :
    Except LookupFailure (List String) :=
  tree.placeSelf invocation.directory (toText path)

/-- The names and the node of a path. -/
def Invocation.find (invocation : Invocation) (tree : FileTree) (path : List Char)
    (follows : Bool) : Except LookupFailure (List String × FileNode) := do
  let names ←
    if follows then invocation.locate tree path else invocation.placeSelf tree path
  match tree.node? names with
  | some node => return (names, node)
  | none => .error .missing

/-- The content at a path, or the words for what is wrong with it.  A dash stands for
standard input. -/
def Invocation.read (invocation : Invocation) (path : List Char) : Except String (List Char) :=
  if path = ['-'] then .ok invocation.input
  else
    let ofTree := fun path : List Char =>
      match invocation.tree.lookup invocation.directory (toText path) with
      | .ok (.file content _) => (.ok (ofBytes content) : Except String (List Char))
      | .ok (.unreadable failure _) => .error failure.words
      | .ok (.directory _) => .error "Is a directory"
      | .ok (.link _ _) => .error (lookupMessage .tooManyLinks)
      | .error failure => .error (lookupMessage failure)
    match device? path with
    | some .null => .ok []
    | some .zero | some .full => .ok (List.replicate endless '\x00')
    | some .random => .ok (disorder endless)
    | some (.descriptor 0) => .ok invocation.input
    | some (.descriptor number) =>
        match invocation.descriptors.lookup number with
        | some text => .ok text
        | none => ofTree path
    | none => ofTree path

/-- Whether a path stands for standard input. -/
def isInput (path : List Char) : Bool :=
  path = ['-'] || device? path = some (.descriptor 0)

/-- A new file with octets in it. -/
def Invocation.newFile (invocation : Invocation) (octets : List Char) : FileNode :=
  .file (toBytes octets) ⟨0o666 &&& (0o777 ^^^ invocation.mask), invocation.clock, 0⟩

/-- A new directory. -/
def Invocation.newDirectory (invocation : Invocation) : FileNode :=
  .directory ⟨0o777 &&& (0o777 ^^^ invocation.mask), invocation.clock, 0⟩

/-- Puts octets into the file of a path, in place of what is there or after it. -/
def Invocation.store (invocation : Invocation) (path octets : List Char) (appends : Bool)
    (outcome : Outcome) : Except String Outcome :=
  let intoTree := fun path : List Char =>
    match invocation.place outcome.tree path with
    | .error failure => (.error (lookupMessage failure) : Except String Outcome)
    | .ok names =>
        match outcome.tree.node? names with
        | some (.directory _) => .error "Is a directory"
        | some (.unreadable failure _) => .error failure.words
        | some (.file content traits) =>
            let kept := if appends then content else []
            .ok (outcome.modifyTree fun tree => tree.replace names
              (.file (kept ++ toBytes octets) { traits with modified := invocation.clock }))
        | _ =>
            if path.getLast? = some '/' then .error "Is a directory"
            else
              .ok (outcome.modifyTree fun tree => tree.put names (invocation.newFile octets))
  match device? path with
  | some .null | some .zero | some .random => .ok outcome
  | some .full => if octets.isEmpty then .ok outcome else .error "No space left on device"
  | some (.descriptor number) =>
      if number ≤ 2 then .ok (outcome.write number octets) else intoTree path
  | none => intoTree path

/-- What is read from all operands, or from standard input if there are none, with an
outcome that complains in the given words, and with the given status, about those that
cannot be read. -/
def Invocation.readAllWith (invocation : Invocation) (words : List Char → String → String)
    (failure : Nat) (operands : List (List Char)) : List (List Char × List Char) × Outcome :=
  let operands := if operands.isEmpty then [['-']] else operands
  let usesInput := operands.any isInput
  let outcome := if usesInput then { invocation.outcome with input := [] } else invocation.outcome
  let (found, outcome, _) := operands.foldl
    (fun (result : List (List Char × List Char) × Outcome × Bool) operand =>
      let (found, outcome, isUsed) := result
      match invocation.read operand with
      | .ok content =>
          -- Standard input is read to its end by the operand that names it first.
          let content := if isUsed && isInput operand then [] else content
          ((operand, content) :: found, outcome, isUsed || isInput operand)
      | .error message =>
          (found, outcome.complain (invocation.complaint (ofText (words operand message)))
            failure, isUsed))
    ([], outcome, false)
  (found.reverse, outcome)

/-- What is read from all operands, or from standard input if there are none, with an
outcome that complains about those that cannot be read. -/
def Invocation.readAll (invocation : Invocation) (operands : List (List Char)) :
    List (List Char × List Char) × Outcome :=
  invocation.readAllWith (fun path message => titled path ++ ": " ++ message) 1 operands

/-- A text with a character in front of it, up to a width. -/
def padLeft (width : Nat) (fill : Char) (octets : List Char) : List Char :=
  List.replicate (width - octets.length) fill ++ octets

/-- A text with spaces after it, up to a width. -/
def padRight (width : Nat) (octets : List Char) : List Char :=
  octets ++ List.replicate (width - octets.length) ' '

end Shell
end Snippets
