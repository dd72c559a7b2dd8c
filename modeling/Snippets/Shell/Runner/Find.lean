import Snippets.Shell.Regex
import Snippets.Shell.Runner.Basic

/-!
# Finding files

The files below some paths are visited one after the other.  An expression says which of
them are meant, and what is done with them.
-/

namespace Snippets
namespace Shell
namespace Runner
namespace Find

/-- How a number is compared with another one. -/
inductive Comparison where
  /-- It is the same. -/
  | exactly
  /-- It is greater. -/
  | above
  /-- It is less. -/
  | below
  deriving DecidableEq

/-- Whether a number compares with a limit in a way. -/
def Comparison.holds (comparison : Comparison) (value limit : Int) : Bool :=
  match comparison with
  | exactly => value = limit
  | above => limit < value
  | below => value < limit

/-- How the rights of a file are compared with others. -/
inductive RightsTest where
  /-- They are the same. -/
  | same
  /-- They have all of the others. -/
  | all
  /-- They have one of the others. -/
  | some_
  deriving DecidableEq

/-- An expression about a file. -/
inductive Expression where
  /-- Always true, or never. -/
  | constant (holds : Bool)
  /-- The name matches a pattern, in which capitals may count as small letters. -/
  | name (pattern : List Char) (isFolded : Bool)
  /-- The path matches a pattern. -/
  | path (pattern : List Char) (isFolded : Bool)
  /-- The path matches a regular expression as a whole. -/
  | regex (expression : Shell.Expression)
  /-- The text of a link matches a pattern. -/
  | target (pattern : List Char) (isFolded : Bool)
  /-- The kind is one of some letters, perhaps that of the file which a link leads to. -/
  | kind (letters : List Char) (follows : Bool)
  /-- The size in a unit compares with a number. -/
  | size (comparison : Comparison) (limit unit : Nat)
  /-- There is nothing inside. -/
  | empty
  /-- The file has been changed after a time. -/
  | newer (time : Int)
  /-- The time since the last change, in a unit of seconds, compares with a number. -/
  | age (comparison : Comparison) (limit unit : Nat)
  /-- The rights compare with others. -/
  | rights (test : RightsTest) (bits : Nat)
  /-- The number of names compares with a number. -/
  | links (comparison : Comparison) (limit : Nat)
  /-- The number of the node compares with a number. -/
  | number (comparison : Comparison) (limit : Nat)
  /-- The file is the one with the given names. -/
  | same (names : List String)
  /-- Somebody may run the file. -/
  | runnable
  /-- The path is printed with an octet after it. -/
  | print (ending : Char)
  /-- A format is printed. -/
  | printf (format : List Char)
  /-- Facts about the file are printed. -/
  | listing
  /-- The path is written to a file. -/
  | write (path : List Char) (ending : Char)
  /-- Nothing below the file is visited. -/
  | prune
  /-- Nothing more is visited. -/
  | quit
  /-- The file is removed. -/
  | delete
  /-- A command runs for the file, perhaps in its directory. -/
  | execute (words : List (List Char)) (isInside : Bool)
  /-- A command runs for many files, and has a number among such commands. -/
  | gather (number : Nat) (words : List (List Char)) (isInside : Bool)
  /-- The expression is false. -/
  | opposite (expression : Expression)
  /-- Both expressions are true. -/
  | both (first second : Expression)
  /-- One of the expressions is true. -/
  | either (first second : Expression)
  /-- Only the second expression counts. -/
  | after (first second : Expression)

/-- How files are visited. -/
structure Plan where
  /-- The least depth of files that count. -/
  least : Nat
  /-- The greatest depth. -/
  greatest : Option Nat
  /-- Whether what is inside of a directory comes before it. -/
  isDeep : Bool
  /-- Whether something is done with the files besides choosing them. -/
  hasAction : Bool
  /-- The number of commands for many files. -/
  gathers : Nat
  /-- How regular expressions are written. -/
  grammar : Grammar

/-- A plan with nothing special. -/
def Plan.usual : Plan := ⟨0, none, false, false, 0, .ofPaths⟩

/-- The ways to write regular expressions. -/
def grammars : List (String × Grammar) :=
  [("findutils-default", .ofPaths), ("emacs", .ofPaths), ("ed", .careful false),
   ("sed", .careful false), ("posix-basic", .careful false), ("grep", .lenient false),
   ("posix-minimal-basic", .careful false), ("posix-extended", .conditional),
   ("egrep", .lenient true), ("posix-egrep", .lenient true), ("awk", .lenient true),
   ("posix-awk", .lenient true), ("gnu-awk", .lenient true)]

/-- Why an expression cannot be read: words for it. -/
abbrev Reading := Except String (Expression × List (List Char) × Plan)

/-- A number with a sign that says how it is compared. -/
def comparison? (text : List Char) : Option (Comparison × Nat × List Char) :=
  let (sign, rest) := match text with
    | '+' :: rest => (Comparison.above, rest)
    | '-' :: rest => (.below, rest)
    | rest => (.exactly, rest)
  let digits := rest.takeWhile Char.isDigit
  (toNat? digits).map fun number => (sign, number, rest.drop digits.length)

/-- The unit of a size. -/
def unit? (letters : List Char) : Option Nat :=
  match letters with
  | [] | ['b'] => some 512
  | ['c'] => some 1
  | ['w'] => some 2
  | ['k'] => some 1024
  | ['M'] => some 1048576
  | ['G'] => some 1073741824
  | _ => none

/-- The expressions that are a word alone. -/
def single? (word : String) (plan : Plan) : Option (Expression × Plan) :=
  let acts := { plan with hasAction := true }
  match word with
  | "-true" => some (.constant true, plan)
  | "-false" => some (.constant false, plan)
  | "-print" => some (.print '\n', acts)
  | "-print0" => some (.print '\x00', acts)
  | "-ls" => some (.listing, acts)
  | "-prune" => some (.prune, plan)
  | "-quit" => some (.quit, plan)
  | "-delete" => some (.delete, { acts with isDeep := true })
  | "-empty" => some (.empty, plan)
  | "-depth" | "-d" => some (.constant true, { plan with isDeep := true })
  | "-executable" => some (.runnable, plan)
  | "-readable" | "-writable" | "-mount" | "-xdev" | "-noleaf" | "-daystart" | "-follow"
  | "-warn" | "-nowarn" | "-ignore_readdir_race" => some (.constant true, plan)
  | "-nouser" | "-nogroup" => some (.constant false, plan)
  | _ => none

/-- The words for a number that is none. -/
def wrongNumber (word : String) (value : List Char) : String :=
  "Expected a positive decimal integer argument to " ++ word ++ ", but got " ++ curly value

/-- The expressions that are a word and a value.  A word that is not among them has no
answer. -/
def valued? (state : State) (word : String) (value : List Char) (plan : Plan) :
    Option (Except String (Expression × Plan)) :=
  let plain := fun expression : Expression => some (.ok (expression, plan))
  let acts := { plan with hasAction := true }
  let wrong := some (.error ("invalid argument \x60" ++ toText value ++ "' to \x60" ++ word ++ "'"))
  let numbered := fun make : Comparison → Nat → Expression =>
    match comparison? value with
    | some (comparison, limit, []) => plain (make comparison limit)
    | _ => wrong
  let user := fun list : List (String × Nat) =>
    match (list.lookup (toText value)).orElse fun _ => toNat? value with
    | some number => plain (.constant (number = 0))
    | none => some (.error (curly value ++ (if word = "-user" then
        " is not the name of a known user" else " is not the name of an existing group")))
  match word with
  | "-name" => plain (.name value false)
  | "-iname" => plain (.name value true)
  | "-path" | "-wholename" => plain (.path value false)
  | "-ipath" | "-iwholename" => plain (.path value true)
  | "-lname" => plain (.target value false)
  | "-ilname" => plain (.target value true)
  | "-regex" | "-iregex" =>
      match Shell.Expression.ofText plan.grammar (characters value) with
      | .ok expression =>
          plain (.regex (if word = "-iregex" then expression.foldCase else expression))
      | .error fault =>
          some (.error ("failed to compile regular expression '" ++ toText value ++ "': " ++
            fault.words))
  | "-regextype" =>
      match grammars.lookup (toText value) with
      | some grammar => some (.ok (.constant true, { plan with grammar := grammar }))
      | none => some (.error ("Unknown regular expression type " ++ curly value))
  | "-type" | "-xtype" =>
      let letters := (splitAt ',' value).flatten
      match letters.find? fun letter => !"bcdpflsD".toList.contains letter with
      | some letter => some (.error ("Unknown argument to " ++ word ++ ": " ++ toText [letter]))
      | none => plain (.kind letters (word = "-xtype"))
  | "-size" =>
      match comparison? value with
      | some (comparison, limit, letters) =>
          match unit? letters with
          | some unit => plain (.size comparison limit unit)
          | none => some (.error ("invalid -size type \x60" ++ toText letters ++ "'"))
      | none => some (.error ("Invalid argument \x60" ++ toText value ++ "' to -size"))
  | "-newer" | "-anewer" | "-cnewer" | "-newermm" =>
      match state.node? value with
      | some node => plain (.newer node.traits.modified)
      | none => some (.error (curly value ++ ": No such file or directory"))
  | "-newermt" =>
      match Date.moment? (Program.invocationOf [] [] state) value with
      | some time => plain (.newer time)
      | none => some (.error ("I cannot figure out how to interpret " ++ curly value ++
          " as a date or time"))
  | "-mtime" | "-atime" | "-ctime" => numbered fun comparison limit => .age comparison limit 86400
  | "-mmin" | "-amin" | "-cmin" => numbered fun comparison limit => .age comparison limit 60
  | "-links" => numbered fun comparison limit => .links comparison limit
  | "-inum" => numbered fun comparison limit => .number comparison limit
  | "-uid" | "-gid" => numbered fun comparison limit => .constant (comparison.holds 0 limit)
  | "-user" => user Rights.users
  | "-group" => user Rights.groups
  | "-perm" =>
      let (test, text) := match value with
        | '-' :: rest => (RightsTest.all, rest)
        | '/' :: rest => (RightsTest.some_, rest)
        | rest => (RightsTest.same, rest)
      match Mode.Change.ofText? text with
      | some change => plain (.rights test (change.apply 0 false 0))
      | none => some (.error ("invalid mode " ++ curly value))
  | "-samefile" =>
      match state.locate value with
      | .ok names => plain (.same names)
      | .error _ => some (.error (curly value ++ ": No such file or directory"))
  | "-printf" => some (.ok (.printf value, acts))
  | "-fprint" => some (.ok (.write value '\n', acts))
  | "-fprint0" => some (.ok (.write value '\x00', acts))
  | "-maxdepth" =>
      match toNat? value with
      | some depth => some (.ok (.constant true, { plan with greatest := some depth }))
      | none => some (.error (wrongNumber word value))
  | "-mindepth" =>
      match toNat? value with
      | some depth => some (.ok (.constant true, { plan with least := depth }))
      | none => some (.error (wrongNumber word value))
  | _ => none

/-- The words of a command up to the mark at its end, whether it runs for many files, and what
follows. -/
def commandWords : List (List Char) → List (List Char) →
    Option (List (List Char) × Bool × List (List Char))
  | _, [] => none
  | found, [';'] :: rest => some (found.reverse, false, rest)
  | found, ['\x7b', '\x7d'] :: ['+'] :: rest => some (found.reverse, true, rest)
  | found, word :: rest => commandWords (word :: found) rest

/-- Whether a word starts an expression. -/
def startsExpression (word : List Char) : Bool :=
  (word.head? = some '-' && word.length > 1) || [['('], [')'], ['!'], [',']].contains word

mutual

/-- Reads expressions of which only the last one counts. -/
def readAll (state : State) : Nat → List (List Char) → Plan → Reading
  | 0, _, _ => .error "invalid expression"
  | fuel + 1, words, plan => do
      let (first, rest, plan) ← readEither state fuel words plan
      match rest with
      | [','] :: rest =>
          let (second, rest, plan) ← readAll state fuel rest plan
          return (.after first second, rest, plan)
      | _ => return (first, rest, plan)

/-- Reads expressions of which one has to be true. -/
def readEither (state : State) : Nat → List (List Char) → Plan → Reading
  | 0, _, _ => .error "invalid expression"
  | fuel + 1, words, plan => do
      let (first, rest, plan) ← readBoth state fuel words plan
      match rest with
      | word :: rest =>
          if word = "-o".toList ∨ word = "-or".toList then
            let (second, rest, plan) ← readEither state fuel rest plan
            return (.either first second, rest, plan)
          else return (first, word :: rest, plan)
      | [] => return (first, [], plan)

/-- Reads expressions all of which have to be true. -/
def readBoth (state : State) : Nat → List (List Char) → Plan → Reading
  | 0, _, _ => .error "invalid expression"
  | fuel + 1, words, plan => do
      let (first, rest, plan) ← readOne state fuel words plan
      match rest with
      | word :: after =>
          if word = "-a".toList ∨ word = "-and".toList then
            let (second, rest, plan) ← readBoth state fuel after plan
            return (.both first second, rest, plan)
          else if word = [')'] ∨ word = [','] ∨ word = "-o".toList ∨ word = "-or".toList then
            return (first, rest, plan)
          else
            let (second, rest, plan) ← readBoth state fuel rest plan
            return (.both first second, rest, plan)
      | [] => return (first, [], plan)

/-- Reads one expression. -/
def readOne (state : State) : Nat → List (List Char) → Plan → Reading
  | 0, _, _ => .error "invalid expression"
  | fuel + 1, words, plan =>
      match words with
      | [] => .error "invalid expression; expected an expression here"
      | word :: rest =>
          let text := toText word
          if word = ['!'] ∨ text = "-not" then do
            let (inner, rest, plan) ← readOne state fuel rest plan
            return (.opposite inner, rest, plan)
          else if word = ['('] then do
            let (inner, rest, plan) ← readAll state fuel rest plan
            match rest with
            | [')'] :: rest => return (inner, rest, plan)
            | _ =>
                .error ("invalid expression; I was expecting to find a ')' somewhere but did " ++
                  "not see one.")
          else if ["-exec", "-execdir", "-ok", "-okdir"].contains text then
            let isInside := text = "-execdir" || text = "-okdir"
            let acts := { plan with hasAction := true }
            match commandWords [] rest with
            | some (command, isMany, rest) =>
                if command.isEmpty ∧ !isMany then
                  .error ("missing argument to \x60" ++ text ++ "'")
                else if isMany then
                  .ok (.gather acts.gathers command isInside, rest,
                    { acts with gathers := acts.gathers + 1 })
                else .ok (.execute command isInside, rest, acts)
            | none => .error ("missing argument to \x60" ++ text ++ "'")
          else
            match single? text plan with
            | some (expression, plan) => .ok (expression, rest, plan)
            | none =>
                if !startsExpression word then
                  .error ("paths must precede expression: \x60" ++ text ++ "'")
                else
                  match rest with
                  | value :: rest =>
                      match valued? state text value plan with
                      | some (.ok (expression, plan)) => .ok (expression, rest, plan)
                      | some (.error message) => .error message
                      | none => .error ("unknown predicate \x60" ++ text ++ "'")
                  | [] =>
                      match valued? state text ['0'] plan with
                      | some _ => .error ("missing argument to \x60" ++ text ++ "'")
                      | none => .error ("unknown predicate \x60" ++ text ++ "'")

end

/-- A file that is visited. -/
structure Visit where
  /-- The path. -/
  path : List Char
  /-- The path from which it is reached. -/
  origin : List Char
  /-- The names from the root. -/
  names : List String
  /-- The node. -/
  node : FileNode
  /-- The number of directories passed. -/
  depth : Nat

/-- How far a search has come. -/
structure Progress where
  /-- The shell. -/
  state : State
  /-- The status. -/
  status : Nat
  /-- Whether nothing below the file is visited. -/
  isPruned : Bool
  /-- Whether nothing more is visited. -/
  isOver : Bool
  /-- The operands of the commands for many files, the latest first. -/
  gathered : List (Nat × List Char)

namespace Progress

/-- Writes to standard output. -/
def say (octets : List Char) (progress : Progress) : Progress :=
  { progress with state := progress.state.write 1 octets }

/-- Complains about a path. -/
def complain (name : List Char) (words : String) (progress : Progress) : Progress :=
  { progress with
    state := progress.state.write 2 (name ++ ofText (": " ++ words ++ "\n")), status := 1 }

end Progress

/-- The last name of a path. -/
def nameOf (path : List Char) : List Char :=
  if path.all (· = '/') then ['/'] else Print.lastName path

/-- The path of the directory that a path is in. -/
def placeOf (path : List Char) : List Char :=
  if path.contains '/' then
    let place := (path.reverse.dropWhile (· != '/')).drop 1 |>.reverse
    if place.isEmpty then ['/'] else place
  else ['.']

/-- Whether a text matches a pattern. -/
def fits (pattern text : List Char) (isFolded : Bool) : Bool :=
  let style : Pattern.Style := ⟨false, isFolded, .pattern⟩
  Pattern.isMatch style (Pattern.ofText (characters pattern)) (characters text)

/-- The time of a change as a letter shows it. -/
def timeText (state : State) (time : Int) (letter : Char) : List Char :=
  let zone := (Program.invocationOf [] [] state).zone
  let seconds := Int.fdiv time 1000000
  let rest := (Int.fmod time 1000000).toNat
  let fraction := padLeft 6 '0' (ofNat rest) ++ "0000".toList
  let format := fun text : String => Clock.format zone seconds (rest * 1000) text.toList
  match letter with
  | '@' => ofInt seconds ++ '.' :: fraction
  | '+' => format "%Y-%m-%d+%H:%M:%S." ++ fraction
  | 'T' => format "%H:%M:%S." ++ fraction
  | 'S' => format "%S." ++ fraction
  | letter => Clock.format zone seconds (rest * 1000) ['%', letter]

/-- What a letter of a format stands for. -/
def fact? (visit : Visit) (letter : Char) (state : State) : Option (List Char) :=
  let traits := visit.node.traits
  let kind := kindLetter visit.names visit.node
  match letter with
  | 'p' => some visit.path
  | 'f' => some (nameOf visit.path)
  | 'h' => some (placeOf visit.path)
  | 'H' => some visit.origin
  | 'P' =>
      let rest := visit.path.drop visit.origin.length
      some (if rest.head? = some '/' then rest.drop 1 else rest)
  | 'd' => some (ofNat visit.depth)
  | 's' => some (ofNat (sizeOf visit.node))
  | 'm' => some (Mode.octal 1 traits.mode)
  | 'M' => some (kind :: Mode.letters traits.mode)
  | 'y' => some [if kind = '-' then 'f' else kind]
  | 'Y' =>
      some (match state.node? visit.path with
        | some node => [if kindLetter visit.names node = '-' then 'f'
            else kindLetter visit.names node]
        | none => ['N'])
  | 'l' =>
      some (match visit.node with
        | .link target _ => ofText target
        | _ => [])
  | 'n' => some (ofNat (linkCount state.world.tree visit.names visit.node))
  | 'u' | 'g' => some "root".toList
  | 'U' | 'G' => some ['0']
  | 'i' => some (ofNat (nodeNumber state.world.tree visit.names visit.node))
  | 'k' => some (ofNat ((roomOf visit.node + 1023) / 1024))
  | 'b' => some (ofNat (roomOf visit.node / 512))
  | 't' | 'a' | 'c' =>
      some (timeText state traits.modified 'a' ++ ' ' :: timeText state traits.modified 'b' ++
        ' ' :: timeText state traits.modified 'e' ++ ' ' ::
        timeText state traits.modified 'T' ++ ' ' :: timeText state traits.modified 'Y')
  | '%' => some ['%']
  | _ => none

/-- A format with the facts about a file filled in. -/
def filled (visit : Visit) (state : State) : Nat → List Char → List Char
  | 0, _ => []
  | _, [] => []
  | fuel + 1, '%' :: rest =>
      let flags := rest.takeWhile fun octet => "-+ #0".toList.contains octet
      let width := (rest.drop flags.length).takeWhile Char.isDigit
      let after := rest.drop (flags.length + width.length)
      let put := fun text : List Char =>
        let size := (toNat? width).getD 0
        if flags.contains '-' then padRight size text
        else padLeft size (if flags.contains '0' then '0' else ' ') text
      match after with
      | 'T' :: letter :: after | 'A' :: letter :: after | 'C' :: letter :: after =>
          put (timeText state visit.node.traits.modified letter) ++ filled visit state fuel after
      | letter :: after =>
          match fact? visit letter state with
          | some text => put text ++ filled visit state fuel after
          | none => '%' :: letter :: filled visit state fuel after
      | [] => ['%']
  | fuel + 1, '\\' :: rest =>
      match rest with
      | [] => ['\\']
      | letter :: after =>
          let digits := (rest.take 3).takeWhile Mode.isOctal
          if !digits.isEmpty then
            Char.ofNat (Mode.ofOctal digits % 256) ::
              filled visit state fuel (rest.drop digits.length)
          else
            match letter, Print.commonEscapes.lookup letter with
            | 'c', _ => []
            | _, some octet => octet :: filled visit state fuel after
            | _, none => '\\' :: letter :: filled visit state fuel after
  | fuel + 1, octet :: rest => octet :: filled visit state fuel rest

/-- The facts about a file in one line. -/
def listingLine (visit : Visit) (state : State) : List Char :=
  let node := visit.node
  let time := timeText state node.traits.modified 'b' ++ ' ' ::
    timeText state node.traits.modified 'e' ++ ' ' :: timeText state node.traits.modified 'H' ++
    ':' :: timeText state node.traits.modified 'M'
  padLeft 9 ' ' (ofNat (nodeNumber state.world.tree visit.names node)) ++
    ' ' :: padLeft 6 ' ' (ofNat ((roomOf node + 1023) / 1024)) ++
    ' ' :: (kindLetter visit.names node :: Mode.letters node.traits.mode) ++
    ' ' :: padLeft 3 ' ' (ofNat (linkCount state.world.tree visit.names node)) ++
    " root     root     ".toList ++ padLeft 8 ' ' (ofNat (sizeOf node)) ++
    ' ' :: time ++ ' ' :: visit.path ++
    (match node with
      | .link target _ => " -> ".toList ++ ofText target
      | _ => []) ++ ['\n']

/-- Removes a file that is visited, or says why it stays. -/
def remove (name : List Char) (visit : Visit) (progress : Progress) : Bool × Progress :=
  let tree := progress.state.world.tree
  let isFull := visit.node.isDirectory && !(tree.children visit.names).isEmpty
  if visit.path = ['.'] then (true, progress)
  else if isFull then
    (false, progress.complain name ("cannot delete " ++ curly visit.path ++
      ": Directory not empty"))
  else
    (true, { progress with
      state := progress.state.modifyWorld fun world =>
        { world with tree := world.tree.remove visit.names } })

/-- Starts a command, perhaps in the directory of a file. -/
def command (run : Start) (name : List Char) (words : List (List Char)) (isInside : Bool)
    (visit : Visit) (progress : Progress) : Bool × Progress :=
  let before := progress.state
  let place := visit.names.dropLast
  let inner := if isInside then
      { before with directory := place, path := ofText ("/" ++ "/".intercalate place) }
    else before
  let first := words.head?.getD []
  match startFault? first inner with
  | some (fault, _) => 
      (false, { progress.complain name (curly first ++ ": " ++ fault) with
        status := progress.status })
  | none =>
      let (flow, after) := run words inner
      let state := { before with world := after.world, status := after.status }
      let isEnded := match flow with
        | .ended _ => true
        | _ => false
      let progress := { progress with state := state, isOver := progress.isOver || isEnded }
      match after.signal with
      | some signal =>
          (false, progress.complain name (curly first ++ " terminated by signal " ++
            toString signal))
      | none => (after.status = 0, progress)

/-- Evaluates an expression for a file. -/
def evaluate (run : Start) (name : List Char) (visit : Visit) :
    Expression → Progress → Bool × Progress
  | .constant holds, progress => (holds, progress)
  | .name pattern isFolded, progress =>
      (fits pattern (nameOf visit.path) isFolded, progress)
  | .path pattern isFolded, progress =>
      (fits pattern visit.path isFolded, progress)
  | .regex expression, progress =>
      let text := characters visit.path
      let isWhole := ((expression.find text).any fun found =>
        found.before.isEmpty && found.after.isEmpty)
      (isWhole, progress)
  | .target pattern isFolded, progress =>
      match visit.node with
      | .link target _ => (fits pattern (ofText target) isFolded, progress)
      | _ => (false, progress)
  | .kind letters follows, progress =>
      let node := if follows then (progress.state.node? visit.path).getD visit.node
        else visit.node
      let kind := kindLetter visit.names node
      (letters.contains (if kind = '-' then 'f' else kind), progress)
  | .size comparison limit unit, progress =>
      (comparison.holds ((sizeOf visit.node + unit - 1) / unit : Nat) limit, progress)
  | .empty, progress =>
      let isEmpty : Bool := match visit.node with
        | .directory _ => (progress.state.world.tree.children visit.names).isEmpty
        | .file content _ => content.isEmpty
        | .link _ _ | .unreadable _ _ => false
      (isEmpty, progress)
  | .newer time, progress => (decide (time < visit.node.traits.modified), progress)
  | .age comparison limit unit, progress =>
      let micros : Int := progress.state.world.clock - visit.node.traits.modified
      let whole := Int.fdiv micros ((unit : Int) * 1000000)
      -- Minutes count as soon as they have begun, days when they are over.
      let value := if unit = 60 ∧ Int.fmod micros 60000000 ≠ 0 then whole + 1 else whole
      (comparison.holds value limit, progress)
  | .rights test bits, progress =>
      let mode := visit.node.traits.mode
      let holds : Bool := match test with
        | .same => mode == bits
        | .all => mode &&& bits == bits
        | .some_ => bits == 0 || mode &&& bits != 0
      (holds, progress)
  | .links comparison limit, progress =>
      (comparison.holds (linkCount progress.state.world.tree visit.names visit.node) limit,
        progress)
  | .number comparison limit, progress =>
      (comparison.holds (nodeNumber progress.state.world.tree visit.names visit.node) limit,
        progress)
  | .same names, progress =>
      let tree := progress.state.world.tree
      let identity := visit.node.traits.identity
      let isSame := visit.names = names ∨ (identity ≠ 0 ∧
        (tree.node? names).any fun node => node.traits.identity = identity)
      (decide isSame, progress)
  | .runnable, progress =>
      (visit.node.isDirectory || visit.node.traits.mode &&& 0o111 != 0, progress)
  | .print ending, progress => (true, progress.say (visit.path ++ [ending]))
  | .printf format, progress =>
      (true, progress.say (filled visit progress.state (format.length + 1) format))
  | .listing, progress => (true, progress.say (listingLine visit progress.state))
  | .write path ending, progress =>
      let invocation := Program.invocationOf name [] progress.state
      match invocation.store path (visit.path ++ [ending]) true invocation.outcome with
      | .ok outcome =>
          (true, { progress with
            state := progress.state.modifyWorld fun world => { world with tree := outcome.tree } })
      | .error _ => (true, progress)
  | .prune, progress => (true, { progress with isPruned := true })
  | .quit, progress => (true, { progress with isOver := true })
  | .delete, progress => remove name visit progress
  | .execute words isInside, progress =>
      let text := if isInside then "./".toList ++ nameOf visit.path else visit.path
      let filled := words.map fun word =>
        let rec put : Nat → List Char → List Char
          | 0, rest => rest
          | _, [] => []
          | fuel + 1, '\x7b' :: '\x7d' :: rest => text ++ put fuel rest
          | fuel + 1, octet :: rest => octet :: put fuel rest
        put (word.length + 1) word
      command run name filled isInside visit progress
  | .gather number _ isInside, progress =>
      let text := if isInside then "./".toList ++ nameOf visit.path else visit.path
      (true, { progress with gathered := (number, text) :: progress.gathered })
  | .opposite inner, progress =>
      let (holds, progress) := evaluate run name visit inner progress
      (!holds, progress)
  | .both first second, progress =>
      let (holds, progress) := evaluate run name visit first progress
      if holds ∧ !progress.isOver then evaluate run name visit second progress
      else (false, progress)
  | .either first second, progress =>
      let (holds, progress) := evaluate run name visit first progress
      if holds ∨ progress.isOver then (true, progress)
      else evaluate run name visit second progress
  | .after first second, progress =>
      let (_, progress) := evaluate run name visit first progress
      if progress.isOver then (false, progress) else evaluate run name visit second progress

/-- Visits a file and what is below it. -/
def visit (run : Start) (name : List Char) (plan : Plan) (expression : Expression)
    (follows : Bool) : Nat → Visit → Progress → Progress
  | 0, _, progress => progress
  | fuel + 1, here, progress =>
      let consider := fun progress : Progress =>
        if here.depth < plan.least ∨ progress.isOver then progress
        else (evaluate run name here expression progress).2
      let inside := fun progress : Progress =>
        let isTooDeep := plan.greatest.any fun greatest => greatest ≤ here.depth
        if isTooDeep ∨ progress.isOver ∨ progress.isPruned ∨ !here.node.isDirectory then progress
        else
          let tree := progress.state.world.tree
          let places := match tree.locate [] ("/" ++ "/".intercalate here.names) with
            | .ok names => names
            | .error _ => here.names
          (tree.children places).foldl
            (fun progress child =>
              let names := places ++ [child]
              let path :=
                if here.path.getLast? = some '/' then here.path ++ ofText child
                else here.path ++ '/' :: ofText child
              match progress.state.world.tree.node? names with
              | some node =>
                  let node := if follows then (progress.state.node? path).getD node else node
                  let after := visit run name plan expression follows fuel
                    ⟨path, here.origin, names, node, here.depth + 1⟩
                    { progress with isPruned := false }
                  { after with isPruned := false }
              | none => progress)
            progress
      if plan.isDeep then consider { inside progress with isPruned := false }
      else inside (consider { progress with isPruned := false })

/-- The commands for many files that an expression has. -/
def gatherings : Expression → List (Nat × List (List Char) × Bool)
  | .gather number words isInside => [(number, words, isInside)]
  | .opposite inner => gatherings inner
  | .both first second | .either first second | .after first second =>
      gatherings first ++ gatherings second
  | _ => []

end Find

/-- Finds files. -/
def find : Runner := fun run name arguments state =>
  let isVersion := arguments.any fun word =>
    word = "-version".toList || word = "--version".toList
  if isVersion then
    settled name arguments (fun invocation => invocation.print (versionLine name)) state
  else
  let flags := arguments.takeWhile fun word =>
    ["-L", "-P", "-H", "-O0", "-O1", "-O2", "-O3"].contains (toText word)
  let rest := arguments.drop flags.length
  let follows := flags.contains "-L".toList || rest.contains "-follow".toList
  let followsFirst := follows || flags.contains "-H".toList
  let paths := rest.takeWhile fun word => !Find.startsExpression word
  let words := rest.drop paths.length
  let reading : Find.Reading :=
    if words.isEmpty then .ok (.constant true, [], .usual)
    else Find.readAll state (8 * words.length + 16) words .usual
  match reading with
  | .error message => fail name message 1 state
  | .ok (_, word :: _, _) =>
      if word = [')'] then
        fail name "invalid expression; you have used a ')' too many" 1 state
      else fail name ("paths must precede expression: \x60" ++ toText word ++ "'") 1 state
  | .ok (expression, [], plan) =>
      let expression := if plan.hasAction then expression
        else .both expression (.print '\n')
      let state := (Program.awaitInput 0 state).wait Program.startCost
      let start : Find.Progress := ⟨state, 0, false, false, []⟩
      let progress := (if paths.isEmpty then [['.']] else paths).foldl
        (fun (progress : Find.Progress) path =>
          if progress.isOver then progress
          else
            let state := progress.state
            let self : Except LookupFailure (List String × FileNode) :=
              match state.world.tree.placeSelf state.directory (toText path) with
              | .error failure => .error failure
              | .ok names =>
                  match state.world.tree.node? names with
                  | some node => .ok (names, node)
                  | none => .error .missing
            match self with
            | .error failure =>
                progress.complain name (curly path ++ ": " ++ lookupMessage failure)
            | .ok (names, node) =>
                let (names, node) :=
                  if followsFirst then
                    match state.locate path with
                    | .ok real => (real, (state.world.tree.node? real).getD node)
                    | .error _ => (names, node)
                  else (names, node)
                let fuel := state.world.tree.nodes.length + 2
                Find.visit run name plan expression follows fuel ⟨path, path, names, node, 0⟩
                  { progress with isPruned := false })
        start
      let progress := (Find.gatherings expression).foldl
        (fun (progress : Find.Progress) gathering =>
          let (number, words, isInside) := gathering
          let operands := (progress.gathered.reverse.filter fun entry => entry.1 = number).map
            Prod.snd
          if operands.isEmpty then progress
          else
            let here : Find.Visit := ⟨['.'], ['.'], progress.state.directory ++ [""],
              .directory .directory, 0⟩
            let (holds, progress) := Find.command run name (words ++ operands) isInside here
              progress
            if holds then progress else { progress with status := 1 })
        progress
      let state := progress.state
      if state.world.isLate then (.ended 9, state)
      else if state.isOutputFull then
        (.next, { state.withStatus 141 with signal := some 13 })
      else done progress.status state

end Runner
end Shell
end Snippets
