import Snippets.Shell.Tool.EditScript

/-!
# Editing lines by commands

Each line is changed by commands, which may be limited to lines of given numbers, to the
last line, or to lines that match an expression.  The line that is edited, a second text kept
for later, and the place among the commands are what a run consists of.
-/

namespace Snippets
namespace Shell
namespace Edit

/-- The place after the end of the group that starts at a place. -/
def groupEnd (steps : Array Step) : Nat → Nat → Nat → Nat
  | 0, place, _ => place
  | fuel + 1, place, depth =>
      match steps[place]? with
      | none => place
      | some step =>
          match step.action with
          | .opening => groupEnd steps fuel (place + 1) (depth + 1)
          | .closing => if depth ≤ 1 then place + 1 else groupEnd steps fuel (place + 1) (depth - 1)
          | _ => groupEnd steps fuel (place + 1) depth

/-- The place of a label. -/
def labelPlace? (steps : Array Step) (name : List Char) : Option Nat :=
  if name.isEmpty then some steps.size
  else
    steps.findIdx? fun step =>
      match step.action with
      | .label other => other = name
      | _ => false

/-- A line that has been read. -/
structure InputLine where
  /-- The characters. -/
  text : List Char
  /-- Whether a mark ends it. -/
  isEnded : Bool
  /-- The file that it comes from. -/
  file : List Char

/-- How far a range of lines has come. -/
inductive Extent where
  /-- It has not started. -/
  | outside
  /-- It goes on up to a line of its second address. -/
  | inside
  /-- It goes on up to a line of a number. -/
  | upTo (number : Nat)
  /-- It has ended, and cannot start again. -/
  | over

/-- What is fixed while lines are edited. -/
structure Job where
  /-- The commands. -/
  steps : Array Step
  /-- Whether lines are only printed by commands. -/
  quiet : Bool
  /-- What ends a line. -/
  mark : Char
  /-- The width of the lines that show a text without hidden characters. -/
  width : Nat
  /-- What can be read from files. -/
  read : List Char → List Char

/-- Lines while they are edited. -/
structure Editing where
  /-- The line at hand. -/
  line : List Char
  /-- Whether a mark ended the line. -/
  isEnded : Bool
  /-- The text kept for later. -/
  kept : List Char
  /-- The number of the line. -/
  number : Nat
  /-- The file that the line comes from. -/
  file : List Char
  /-- The lines that are left. -/
  input : List InputLine
  /-- What has been printed, the latest first. -/
  output : List (List Char)
  /-- Whether the last line that was printed lacks its end. -/
  lacksEnd : Bool
  /-- What is printed after the line. -/
  queue : List (List Char)
  /-- Whether something has been replaced since the line was read. -/
  isReplaced : Bool
  /-- How far the ranges of the commands have come. -/
  extents : Array Extent
  /-- The last expression that was used. -/
  last : Option Expression
  /-- What has been written to files. -/
  written : List (List Char × List Char)
  /-- What is left of files that are read line by line. -/
  left : List (List Char × List (List Char))
  /-- The words for what is wrong, if anything is. -/
  fault : Option String

namespace Editing

/-- Prints octets as they are. -/
def print (job : Job) (octets : List Char) (editing : Editing) : Editing :=
  let output := if editing.lacksEnd then [job.mark] :: editing.output else editing.output
  { editing with output := octets :: output, lacksEnd := false }

/-- Prints characters and the end of the line, if it had one. -/
def printLine (job : Job) (characters : List Char) (editing : Editing) : Editing :=
  let text := ofCharacters characters
  if editing.isEnded then editing.print job (text ++ [job.mark])
  else { (editing.print job text) with lacksEnd := true }

/-- Prints what was put off until after the line. -/
def flush (job : Job) (editing : Editing) : Editing :=
  editing.queue.reverse.foldl (fun editing text => editing.print job text)
    { editing with queue := [] }

/-- Adds octets to what is written to a file. -/
def writeTo (path octets : List Char) (editing : Editing) : Editing :=
  let before := (editing.written.lookup path).getD []
  { editing with
    written := (path, before ++ octets) ::
      editing.written.filter fun entry => entry.1 != path }

/-- Writes a line to a file, or prints it. -/
def record (job : Job) (path characters : List Char) (editing : Editing) : Editing :=
  let text := ofCharacters characters
  if path = "/dev/stdout".toList then editing.printLine job characters
  else editing.writeTo path (text ++ if editing.isEnded then [job.mark] else [])

/-- Reads the next line, if there is one.  What was put off is printed before. -/
def next? (job : Job) (editing : Editing) : Option (Editing × List Char) :=
  match editing.input with
  | [] => none
  | line :: rest =>
      let editing := editing.flush job
      some ({ editing with
        number := editing.number + 1, file := line.file, input := rest, isEnded := line.isEnded },
        line.text)

/-- The words for an expression that is missing. -/
def noExpression : String := "no previous regular expression"

/-- Whether an expression matches the line, and the state that knows it was used. -/
def matchesLine (expression : Option Expression) (editing : Editing) : Bool × Editing :=
  match expression.orElse fun _ => editing.last with
  | none => (false, { editing with fault := some noExpression })
  | some expression =>
      ((expression.find editing.line).isSome, { editing with last := some expression })

/-- Whether the line is the one of an address. -/
def isAt (editing : Editing) : Address → Bool × Editing
  | .number value => (value = editing.number, editing)
  | .step first step =>
      (if step = 0 then editing.number = first
        else first ≤ editing.number && (editing.number - first) % step = 0, editing)
  | .last => (editing.input.isEmpty, editing)
  | .matching expression => editing.matchesLine expression
  | .after _ | .multiple _ => (false, editing)

/-- Whether a range starts at the line, and the state after that has been asked.  One that
starts at a number does so where the line of this number has been passed over, too. -/
def startsRange (editing : Editing) : Address → Bool × Editing
  | .number value => (value ≤ editing.number, editing)
  | first => editing.isAt first

/-- How far a range has come that has ended: one that starts at a number does not start again. -/
def extentAfter : Address → Extent
  | .number _ => .over
  | _ => .outside

/-- Whether a command is for the line, and the state after its range has been followed. -/
def selects (place : Nat) (step : Step) (editing : Editing) : Bool × Editing :=
  let (holds, editing) : Bool × Editing :=
    match step.first, step.second with
    | none, _ => (true, editing)
    | some only, none => editing.isAt only
    | some first, some second =>
        let setExtent := fun (extent : Extent) (editing : Editing) =>
          { editing with extents := editing.extents.setIfInBounds place extent }
        let ended := extentAfter first
        let extent := (editing.extents[place]?).getD .outside
        -- A range that starts before the first line may end at once.
        let extent : Extent := match extent, first with
          | .outside, .number 0 => if editing.number = 1 then .inside else .outside
          | extent, _ => extent
        match extent with
        | .over => (false, editing)
        | .upTo number =>
            if editing.number < number then (true, editing)
            else (editing.number = number, setExtent ended editing)
        | .inside =>
            match second with
            | .number value =>
                if editing.number < value then (true, editing)
                else if editing.number = value then (true, setExtent ended editing)
                else
                  -- The line that ends the range has been passed over.
                  let editing := setExtent ended editing
                  editing.isAt first
            | second =>
                let (ends, editing) := editing.isAt second
                (true, setExtent (if ends then ended else .inside) editing)
        | .outside =>
            let (starts, editing) := editing.startsRange first
            if !starts then (false, editing)
            else
              match second with
              | .number value =>
                  let (isFirst, editing) := editing.isAt first
                  (isFirst || editing.number ≤ value,
                    setExtent (if editing.number < value then .inside else ended) editing)
              | .after count =>
                  (true, setExtent (if count = 0 then ended else .upTo (editing.number + count))
                    editing)
              | .multiple count =>
                  if count = 0 then (true, setExtent ended editing)
                  else (true, setExtent (.upTo ((editing.number / count + 1) * count)) editing)
              | .last =>
                  (true, setExtent (if editing.input.isEmpty then ended else .inside) editing)
              | _ => (true, setExtent .inside editing)
  (holds != step.opposite, editing)

/-- Whether the range of a command has ended with the line. -/
def isRangeOver (place : Nat) (editing : Editing) : Bool :=
  match editing.extents[place]? with
  | some .inside | some (.upTo _) => false
  | _ => true

end Editing

/-- How letters are changed while a replacement is put together: for the next character, and
for all others. -/
structure Casing where
  /-- The change for the next character. -/
  next : Option Char
  /-- The change for all characters. -/
  all : Option Char

/-- Characters changed, and the changes for those that follow. -/
def Casing.apply (casing : Casing) (characters : List Char) : List Char × Casing :=
  let change := fun (letter : Option Char) (character : Char) =>
    match letter with
    | some 'U' | some 'u' => raiseCharacter character
    | some 'L' | some 'l' => lowerCharacter character
    | _ => character
  match characters with
  | [] => ([], casing)
  | first :: rest =>
      let first := match casing.next with
        | some letter => change (some letter) first
        | none => change casing.all first
      (first :: rest.map (change casing.all), { casing with next := none })

/-- What takes the place of a match. -/
def fill (found : Expression.Found) (fillers : List Filler) : List Char :=
  (fillers.foldl
    (fun (state : List (List Char) × Casing) filler =>
      let add := fun characters : List Char =>
        let (changed, casing) := state.2.apply characters
        (changed :: state.1, casing)
      match filler with
      | .text characters => add characters
      | .group 0 => add found.text
      | .group number => add ((found.groups.lookup number).getD [])
      | .case letter =>
          let casing := match letter with
            | 'E' => ⟨none, none⟩
            | 'u' | 'l' => { state.2 with next := some letter }
            | letter => { state.2 with all := some letter }
          (state.1, casing))
    ([], ⟨none, none⟩)).1.reverse.flatten

/-- The first octet of a character, as one that encodes nothing if there are more, and what follows
it. -/
def firstOctet (character : Char) (rest : List Char) : Char × List Char :=
  match (ofCharacters [character]).flatMap fun octet => characters [octet] with
  | first :: more => (first, more ++ rest)
  | [] => (character, rest)

/-- Replaces matches from a number on, and whether there was one.  What has been passed over is
in reverse, and an empty match right after another match does not count. -/
def replaceIn (replacement : Replacement) (expression : Expression) :
    Nat → Nat → Bool → List Char → List Char → List Char × Bool
  | 0, _, _, passed, rest => (passed.reverse ++ rest, false)
  | fuel + 1, count, isAfterMatch, passed, rest =>
      match expression.findFrom passed [] rest with
      | none => (rest, false)
      | some found =>
          let step := fun (shown : List Char) (changed : Bool) =>
            match found.text, found.after with
            | [], [] => (found.before ++ shown, changed)
            | [], next :: after =>
                let (next, after) := firstOctet next after
                let (tail, more) := replaceIn replacement expression fuel (count + 1) false
                  (next :: (found.before.reverse ++ passed)) after
                (found.before ++ shown ++ next :: tail, changed || more)
            | text, after =>
                let (tail, more) := replaceIn replacement expression fuel (count + 1) true
                  (text.reverse ++ found.before.reverse ++ passed) after
                (found.before ++ shown ++ tail, changed || more)
          if found.text.isEmpty ∧ found.before.isEmpty ∧ isAfterMatch then
            match found.after with
            | [] => ([], false)
            | next :: after =>
                let (tail, more) :=
                  replaceIn replacement expression fuel count false (next :: passed) after
                (next :: tail, more)
          else if count < replacement.first then step found.text false
          else if replacement.everywhere then step (fill found replacement.fillers) true
          else (found.before ++ fill found replacement.fillers ++ found.after, true)

/-- A line in which no character is hidden, cut at a width. -/
def unhidden (width : Nat) (line : List Char) : List Char :=
  let names : List (Char × String) :=
    [('\\', "\\\\"), ('\x07', "\\a"), ('\x08', "\\b"), ('\x0c', "\\f"), ('\n', "\\n"),
     ('\r', "\\r"), ('\t', "\\t"), ('\x0b', "\\v")]
  let items := (ofCharacters line).map fun octet =>
    match names.lookup octet with
    | some name => name.toList
    | none =>
        if 32 ≤ octet.toNat ∧ octet.toNat < 127 then [octet] else '\\' :: Quoting.octal octet.toNat
  let (shown, _) := items.foldl
    (fun (state : List (List Char) × Nat) item =>
      if 1 < width ∧ width - 1 < state.2 + item.length then
        (item :: ['\\', '\n'] :: state.1, item.length)
      else (item :: state.1, state.2 + item.length))
    ([], 0)
  shown.reverse.flatten ++ ['$', '\n']

/-- How a run goes on after the commands. -/
inductive Turn where
  /-- With the next line, after the line at hand has been printed or not. -/
  | next (prints : Bool)
  /-- With the commands, for what is left of the line. -/
  | again
  /-- Not at all, after the line at hand has been printed or not. -/
  | quit (prints : Bool) (status : Nat)

/-- Runs the commands from a place on. -/
def runSteps (job : Job) : Nat → Nat → Editing → Turn × Editing
  | 0, _, editing => (.quit false 1, editing)
  | fuel + 1, place, editing =>
      match job.steps[place]? with
      | none => (.next true, editing)
      | some step =>
          let (selected, editing) := editing.selects place step
          let goOn := fun editing : Editing => runSteps job fuel (place + 1) editing
          let fail := fun words : String =>
            (Turn.quit false 1, { editing with fault := some words })
          if editing.fault.isSome then (.quit false 1, editing)
          else if !selected then
            match step.action with
            | .opening =>
                runSteps job fuel (groupEnd job.steps (job.steps.size + 1) (place + 1) 1) editing
            | _ => goOn editing
          else
            match step.action with
            | .opening | .closing | .label _ => goOn editing
            | .replace replacement =>
                let greatest := greatestGroup replacement.fillers
                match replacement.expression.orElse fun _ => editing.last with
                | none => fail Editing.noExpression
                | some expression =>
                    let (line, changed) :=
                      replaceIn replacement expression (editing.line.length + 2) 1 false []
                        editing.line
                    let editing := { editing with last := some expression }
                    if expression.count < greatest then fail (missingGroup greatest)
                    else if !changed then goOn editing
                    else
                      let editing := { editing with line := line, isReplaced := true }
                      let editing := if replacement.printed then editing.printLine job line
                        else editing
                      goOn (match replacement.file with
                        | some path => editing.record job path line
                        | none => editing)
            | .exchange source target =>
                goOn { editing with
                  line := editing.line.map fun character =>
                    match source.idxOf? character with
                    | some index => (target[index]?).getD character
                    | none => character }
            | .text letter text =>
                let text := ofCharacters text
                match letter with
                | 'i' => goOn (editing.print job text)
                | 'a' => goOn { editing with queue := text :: editing.queue }
                | _ =>
                    let editing :=
                      if step.second.isNone || step.opposite || editing.isRangeOver place then
                        editing.print job text
                      else editing
                    (.next false, editing)
            | .file letter path =>
                let path := ofCharacters path
                match letter with
                | 'r' =>
                    let text := job.read path
                    goOn (if text.isEmpty then editing
                      else { editing with queue := text :: editing.queue })
                | 'R' =>
                    let lines := (editing.left.lookup path).getD (records job.mark (job.read path))
                    match lines with
                    | [] => goOn editing
                    | line :: rest =>
                        goOn { editing with
                          queue := (bare job.mark line ++ [job.mark]) :: editing.queue
                          left := (path, rest) :: editing.left.filter fun entry =>
                            entry.1 != path }
                | 'w' => goOn (editing.record job path editing.line)
                | _ => goOn (editing.record job path (editing.line.takeWhile (· != '\n')))
            | .number letter value =>
                match letter with
                | 'q' => (.quit true (value.getD 0), editing)
                | 'Q' => (.quit false (value.getD 0), editing)
                | _ => goOn (editing.print job (unhidden (value.getD job.width) editing.line))
            | .jump letter label =>
                let jumps := match letter with
                  | 't' => editing.isReplaced
                  | 'T' => !editing.isReplaced
                  | _ => true
                let editing := if letter = 'b' then editing
                  else { editing with isReplaced := false }
                if jumps then
                  runSteps job fuel ((labelPlace? job.steps label).getD job.steps.size) editing
                else goOn editing
            | .letter letter =>
                match letter with
                | '=' => goOn (editing.print job (ofNat editing.number ++ ['\n']))
                | 'd' => (.next false, editing)
                | 'D' =>
                    if editing.line.contains '\n' then
                      (.again, { editing with
                        line := (editing.line.dropWhile (· != '\n')).drop 1 })
                    else (.next false, editing)
                | 'F' =>
                    goOn (editing.print job (editing.file ++ ['\n']))
                | 'g' => goOn { editing with line := editing.kept }
                | 'G' => goOn { editing with line := editing.line ++ '\n' :: editing.kept }
                | 'h' => goOn { editing with kept := editing.line }
                | 'H' => goOn { editing with kept := editing.kept ++ '\n' :: editing.line }
                | 'n' =>
                    if editing.input.isEmpty then (.quit true 0, editing)
                    else
                      let editing := if job.quiet then editing
                        else editing.printLine job editing.line
                      match editing.next? job with
                      | some (editing, line) => goOn { editing with line := line }
                      | none => (.quit true 0, editing)
                | 'N' =>
                    match editing.next? job with
                    | some (editing, line) =>
                        goOn { editing with line := editing.line ++ job.mark :: line }
                    | none => (.quit true 0, editing)
                | 'p' => goOn (editing.printLine job editing.line)
                | 'P' => goOn (editing.print job
                    (ofCharacters (editing.line.takeWhile (· != '\n')) ++ [job.mark]))
                | 'x' => goOn { editing with line := editing.kept, kept := editing.line }
                | 'z' => goOn { editing with line := [] }
                | _ => goOn editing

/-- Handles lines one after the other, and answers the status. -/
def runLines (job : Job) : Nat → Bool → Editing → Nat × Editing
  | 0, _, editing => (0, editing)
  | fuel + 1, isNew, editing =>
      let start? := if isNew then
          (editing.next? job).map fun (editing, line) =>
            { editing with line := line, isReplaced := false }
        else some editing
      match start? with
      | none => (0, editing)
      | some editing =>
          let (turn, editing) := runSteps job 4000000 0 editing
          let finish := fun (prints : Bool) (editing : Editing) =>
            (if prints && !job.quiet then editing.printLine job editing.line else editing).flush job
          match turn with
          | .next prints => runLines job fuel true (finish prints editing)
          | .again => runLines job fuel false (editing.flush job)
          | .quit prints status =>
              (status, if prints then finish true editing else editing)

/-- The lines of a file. -/
def inputLines (mark : Char) (file octets : List Char) : List InputLine :=
  (records mark octets).map fun record =>
    ⟨characters (bare mark record), record.getLast? = some mark, file⟩

/-- Edits lines that follow some others. -/
def edit (job : Job) (before : Editing) (lines : List InputLine) : Nat × Editing :=
  runLines job (4 * lines.length + 1000000) true { before with input := lines, output := [] }

/-- Nothing has been edited. -/
def Editing.start (job : Job) : Editing :=
  { line := [], isEnded := true, kept := [], number := 0, file := ['-'], input := []
    output := [], lacksEnd := false, queue := [], isReplaced := false
    extents := Array.replicate job.steps.size .outside, last := none, written := [], left := []
    fault := none }

/-- The octets that have been printed. -/
def Editing.printed (editing : Editing) : List Char :=
  editing.output.reverse.flatten

/-- The files that commands write. -/
def filesOf (steps : List Step) : List (List Char) :=
  steps.filterMap fun step =>
    match step.action with
    | .file letter path => if letter = 'w' ∨ letter = 'W' then some (ofCharacters path) else none
    | .replace replacement => replacement.file.map ofCharacters
    | _ => none

/-- Writes to files what has been written to them. -/
def storeAll (invocation : Invocation) (files : List (List Char)) (editing : Editing)
    (outcome : Outcome) : Outcome :=
  files.foldl
    (fun outcome path =>
      if path = "/dev/stdout".toList then outcome
      else
        match invocation.store path ((editing.written.lookup path).getD []) false outcome with
        | .ok outcome => outcome
        | .error message =>
            outcome.complain (invocation.complaint (ofText
              ("couldn't open file " ++ toText path ++ ": " ++ message))) 4)
    outcome

/-- The path of the copy that is kept of a file. -/
def copyPath (ending path : List Char) : List Char :=
  if ending.contains '*' then
    let name := (path.reverse.takeWhile (· != '/')).reverse
    let start := path.take (path.length - name.length)
    start ++ ending.flatMap fun octet => if octet = '*' then name else [octet]
  else path ++ ending

/-- The words for a file that cannot be read. -/
def unreadable (path : List Char) (message : String) : String :=
  if message = "Is a directory" then "couldn't edit " ++ toText path ++ ": not a regular file"
  else "can't read " ++ toText path ++ ": " ++ message

/-- Edits files in their places. -/
def editFiles (invocation : Invocation) (job : Job) (ending : List Char)
    (files operands : List (List Char)) : Outcome :=
  let (outcome, editing) := operands.foldl
    (fun (state : Outcome × Editing) path =>
      let (outcome, editing) := state
      let ready := { invocation with tree := outcome.tree }
      match ready.read path with
      | .error message =>
          (outcome.complain (invocation.complaint (ofText (unreadable path message)))
            (if message = "Is a directory" then 4 else 2), editing)
      | .ok text =>
          let (status, editing) := edit job
            { editing with number := 0, extents := Array.replicate job.steps.size .outside }
            (inputLines job.mark path text)
          let outcome := if ending.isEmpty then outcome
            else
              match invocation.store (copyPath ending path) text false outcome with
              | .ok outcome => outcome
              | .error _ => outcome
          match invocation.store path editing.printed false outcome with
          | .ok outcome => (if status = 0 then outcome else outcome.withStatus status,
              { editing with output := [], lacksEnd := false })
          | .error message =>
              (outcome.complain (invocation.complaint (ofText (unreadable path message))) 4,
                editing))
    (invocation.outcome, Editing.start job)
  storeAll invocation files editing outcome

/-- The number of octets that are read from a pipe at once. -/
def blockSize : Nat := 4096

/-- What is left on standard input when some lines have not been looked at. -/
def restOfInput (mark : Char) (isUnbuffered : Bool) (left : Nat) (invocation : Invocation) :
    List Char :=
  let input := invocation.input
  if left = 0 then []
  else
    let lines := records mark input
    let read := (lines.take (lines.length - left)).flatten.length
    if isUnbuffered ∨ invocation.isFile then input.drop read
    else input.drop ((read + blockSize - 1) / blockSize * blockSize)

/-- The words for a place in the pieces of a script, of which some come from files: the place after
a number of octets, or none in particular. -/
def placeText (given : List (Option (List Char) × List Char)) (place : Option Nat) : String :=
  let (index, start) := ((List.range given.length).foldl
    (fun (found : Nat × Nat) index =>
      let length := ((given[index]?).map fun piece => piece.2.length + 1).getD 0
      if found.1 = index && found.2 + length ≤ place.getD 0 && index + 1 < given.length then
        (index + 1, found.2 + length)
      else found)
    (0, 0))
  match given[index]? with
  | some (some file, text) =>
      let lines := (text.take (place.getD 0 - start)).count '\n'
      "file " ++ toText file ++ " line " ++ toString (lines + 1)
  | _ =>
      let number := ((given.take (index + 1)).filter fun piece => piece.1.isNone).length
      "-e expression #" ++ toString (max 1 number) ++ ", char " ++
        toString (place.getD start - start)

/-- Edits what is read. -/
def sed : Tool :=
  withOptions ["n quiet", "n silent", "e=expression", "f=file", "E regexp-extended", "r",
    "i?in-place", "s separate", "z null-data", "u unbuffered", "l=line-length", "p-posix",
    "d-debug", "S-sandbox", "F-follow-symlinks"] fun invocation options =>
      let fromFiles := (options.valuesOf 'f').map fun path => (path, invocation.read path)
      let unread := fromFiles.findSome? fun entry =>
        match entry.2 with
        | .error message => some ("couldn't open file " ++ toText entry.1 ++ ": " ++ message)
        | .ok _ => none
      let isGiven := options.has 'e' || options.has 'f'
      match unread, isGiven, options.operands with
      | some message, _, _ => invocation.fail message 4
      | none, false, [] =>
          invocation.outcome.complain ("Usage: ".toList ++ invocation.name ++
            " [OPTION]... \x7bscript-only-if-no-other-script\x7d [input-file]...\n".toList) 1
      | none, _, operands =>
          let given := options.given.filterMap fun entry =>
            match entry.1 with
            | 'e' => some (none, entry.2)
            | 'f' => (fromFiles.lookup entry.2).bind fun content =>
                match content with
                | .ok text => some (some entry.2, bare '\n' text)
                | .error _ => none
            | _ => none
          let (given, operands) := if isGiven then (given, operands)
            else ((operands.take 1).map fun script => (none, script), operands.drop 1)
          let octets := ['\n'].intercalate (given.map Prod.snd)
          let script := characters octets
          let extended := options.has 'E' || options.has 'r'
          match steps? extended (script.length + 2) [] 0 script with
          | .error (.bare words) => invocation.fail words 4
          | .error (.somewhere words) => invocation.fail (placeText given none ++ ": " ++ words) 1
          | .error (.at words left) =>
              invocation.fail (placeText given (some (octets.length - left)) ++ ": " ++ words) 1
          | .ok steps =>
              let missing := steps.findSome? fun step =>
                match step.action with
                | .jump _ label =>
                    if (labelPlace? steps.toArray label).isNone then some label else none
                | _ => none
              match missing with
              | some label =>
                  invocation.fail ("can't find label for jump to \x60" ++
                    toText (ofCharacters label) ++ "'") 4
              | none =>
                  let job : Job :=
                    { steps := steps.toArray
                      quiet := options.has 'n' || "#n".toList.isPrefixOf octets
                      mark := markOf options
                      width := ((options.value? 'l').bind toNat?).getD 70
                      read := fun path =>
                        let path := if path = "/dev/stdin".toList then ['-'] else path
                        match invocation.read path with
                        | .ok text => text
                        | .error _ => [] }
                  let files := filesOf steps
                  if options.has 'i' && operands.isEmpty then invocation.fail "no input files" 4
                  else if options.has 'i' then
                    editFiles invocation job ((options.value? 'i').getD []) files operands
                  else
                    let operands := if operands.isEmpty then [['-']] else operands
                    let read := operands.map fun path => (path, invocation.read path)
                    let outcome := read.foldl
                      (fun outcome entry =>
                        match entry.2 with
                        | .ok _ => outcome
                        | .error message =>
                            outcome.complain (invocation.complaint (ofText
                              (if message = "Is a directory" then
                                "read error on " ++ toText entry.1 ++ ": Is a directory"
                              else unreadable entry.1 message)))
                              (if message = "Is a directory" then 4 else 2))
                      (if operands.any isInput then { invocation.outcome with input := [] }
                        else invocation.outcome)
                    let groups := read.filterMap fun entry =>
                      match entry.2 with
                      | .ok text => some (inputLines job.mark entry.1 text)
                      | .error _ => none
                    let (status, editing, shown) :=
                      if options.has 's' then
                        groups.foldl
                          (fun (state : Nat × Editing × List Char) lines =>
                            let (status, editing, shown) := state
                            if status ≠ 0 then state
                            else
                              let (status, editing) := edit job { editing with
                                number := 0,
                                extents := Array.replicate job.steps.size .outside } lines
                              (status, editing, shown ++ editing.printed))
                          (0, Editing.start job, [])
                      else
                        let (status, editing) := edit job (Editing.start job) groups.flatten
                        (status, editing, editing.printed)
                    let outcome := if operands = [['-']] then
                        { outcome with
                          input := restOfInput job.mark (options.has 'u') editing.input.length
                            invocation }
                      else outcome
                    let outcome := storeAll invocation files editing (outcome.say shown)
                    let outcome := match editing.fault with
                      | some words =>
                          outcome.complain (invocation.complaint (ofText
                            (placeText given none ++ ": " ++ words))) status
                      | none => outcome
                    if status = 0 then outcome else outcome.withStatus status

end Edit
end Shell
end Snippets
