import Snippets.Shell.Pattern
import Snippets.Shell.Tool.Sorting
import Snippets.Shell.Words

/-!
# Columns

Programs that handle the fields and the columns of lines, and one that handles single
octets.
-/

namespace Snippets
namespace Shell
namespace Columns

/-- The first and the last number of a range, which may have no end. -/
abbrev Range := Nat × Option Nat

/-- Whether a number is in one of some ranges. -/
def isIn (ranges : List Range) (number : Nat) : Bool :=
  ranges.any fun range => range.1 ≤ number && range.2.all (number ≤ ·)

/-- What the items of a list of ranges are called. -/
def itemWords (isField : Bool) : String × String :=
  if isField then ("invalid field value ", "fields are numbered from 1")
  else ("invalid byte/character position ", "byte/character positions are numbered from 1")

/-- Reads a range. -/
def range? (isField : Bool) (text : List Char) : Except String Range :=
  let (wrong, zero) := itemWords isField
  let first := text.takeWhile Char.isDigit
  let rest := text.drop first.length
  match toNat? first, rest with
  | some 0, _ => .error zero
  | some number, [] => .ok (number, some number)
  | number, '-' :: last =>
      if last.isEmpty then
        match number with
        | some number => .ok (number, none)
        | none => .error "invalid range with no endpoint: -"
      else
        match toNat? last with
        | some last =>
            if last = 0 then .error zero
            else if last < number.getD 1 then .error "invalid decreasing range"
            else .ok (number.getD 1, some last)
        | none => .error (wrong ++ curly (last.dropWhile Char.isDigit))
  | none, [] => .error zero
  | _, rest => .error (wrong ++ curly (if first.isEmpty then text else rest))

/-- Reads ranges, in ascending order and without those that overlap. -/
def ranges? (isField : Bool) (text : List Char) : Except String (List Range) := do
  let items := (text.splitBy fun first second =>
    first != ',' && first != ' ' && first != '\t' && second != ',' && second != ' ' &&
      second != '\t').filter fun item => item != [','] && item != [' '] && item != ['\t']
  let found ← items.mapM (range? isField)
  if found.isEmpty then .error (itemWords isField).2
  else
    let sorted := found.mergeSort fun first second => first.1 ≤ second.1
    return (sorted.foldl
      (fun (merged : List Range) range =>
        match merged with
        | last :: rest =>
            if last.2.all (range.1 ≤ ·) then
              let stop := match last.2, range.2 with
                | some x, some y => some (max x y)
                | _, _ => none
              (last.1, stop) :: rest
            else range :: merged
        | [] => [range])
      []).reverse

/-- The ranges of all other numbers. -/
def complement (ranges : List Range) : List Range :=
  let (found, next) := ranges.foldl
    (fun (state : List Range × Option Nat) range =>
      let (found, next) := state
      match next with
      | none => state
      | some next =>
          ((if next < range.1 then (next, some (range.1 - 1)) :: found else found),
            range.2.map (· + 1)))
    ([], some 1)
  (match next with
    | some next => (next, none) :: found
    | none => found).reverse

/-- The chosen octets of a line. -/
def cutOctets (ranges : List Range) (between : Option (List Char)) (line : List Char) :
    List Char :=
  let numbered := line.zipIdx 1
  match between with
  | none => (numbered.filter fun entry => isIn ranges entry.2).map Prod.fst
  | some between =>
      let parts := ranges.map fun range =>
        (numbered.filter fun entry => isIn [range] entry.2).map Prod.fst
      between.intercalate (parts.filter fun part => !part.isEmpty)

/-- The chosen fields of a line, unless it is left out. -/
def cutFields (ranges : List Range) (separator : Char) (between : List Char) (strict : Bool)
    (line : List Char) : Option (List Char) :=
  let fields := splitAt separator line
  if fields.length ≤ 1 then (if strict then none else some line)
  else
    some (between.intercalate
      (((fields.zipIdx 1).filter fun entry => isIn ranges entry.2).map Prod.fst))

/-- Chooses octets or fields of lines. -/
def cut : Tool :=
  withOptions ["b=bytes", "c=characters", "d=delimiter", "f=fields", "n", "s only-delimited",
    "z zero-terminated", "C-complement", "o:output-delimiter"] fun invocation options =>
      let kinds := options.given.filter fun entry => ['b', 'c', 'f'].contains entry.1
      match kinds with
      | [] => invocation.misused "you must specify a list of bytes, characters, or fields" 1
      | _ :: _ :: _ => invocation.misused "only one list may be specified" 1
      | [(kind, list)] =>
          let isField := kind = 'f'
          if (options.value? 'd').any fun text => 1 < (characters text).length then
            invocation.misused "the delimiter must be a single character" 1
          else if ¬isField ∧ options.has 'd' then
            invocation.misused
              "an input delimiter may be specified only when operating on fields" 1
          else if ¬isField ∧ options.has 's' then
            invocation.misused
              "suppressing non-delimited lines makes sense\n\tonly when operating on fields" 1
          else
            match ranges? isField list with
            | .error message => invocation.misused message 1
            | .ok ranges =>
                let ranges := if options.has 'C' then complement ranges else ranges
                let mark := markOf options
                let separator := match options.value? 'd' with
                  | none => '\t'
                  | some text => (text.head?).getD '\x00'
                let between := (options.value? 'o').getD [separator]
                let (contents, outcome) := invocation.readAll options.operands
                let shown := contents.flatMap fun entry =>
                  if isField ∧ separator = mark then
                    let fields := bareRecords mark entry.2
                    if entry.2.isEmpty then []
                    else
                      between.intercalate
                        (((fields.zipIdx 1).filter fun entry => isIn ranges entry.2).map
                          Prod.fst) ++ [mark]
                  else
                    (bareRecords mark entry.2).flatMap fun line =>
                      if isField then
                        match cutFields ranges separator between (options.has 's') line with
                        | some text => text ++ [mark]
                        | none => []
                      else cutOctets ranges (options.value? 'o') line ++ [mark]
                outcome.say shown

/-- The texts between columns that a list of characters names. -/
def separators : List Char → List (List Char)
  | '\\' :: 'n' :: rest => ['\n'] :: separators rest
  | '\\' :: 't' :: rest => ['\t'] :: separators rest
  | '\\' :: '0' :: rest => [] :: separators rest
  | '\\' :: 'b' :: rest => ['\x08'] :: separators rest
  | '\\' :: 'f' :: rest => ['\x0c'] :: separators rest
  | '\\' :: 'r' :: rest => ['\r'] :: separators rest
  | '\\' :: 'v' :: rest => ['\x0b'] :: separators rest
  | '\\' :: octet :: rest => [octet] :: separators rest
  | octet :: rest => [octet] :: separators rest
  | [] => []

/-- Texts joined by separators, which are used by turns. -/
def joinBy (separators : List (List Char)) (texts : List (List Char)) : List Char :=
  texts.zipIdx.flatMap fun (text, index) =>
    if index = 0 then text
    else ((separators[(index - 1) % max 1 separators.length]?).getD []) ++ text

/-- Takes a line from the source of each column, and the lines that are left. -/
def takeRow (sources : List (List (List Char))) (columns : List Nat) :
    List (Option (List Char)) × List (List (List Char)) :=
  let (row, left) := columns.foldl
    (fun (state : List (Option (List Char)) × List (List (List Char))) column =>
      match state.2[column]? with
      | some (line :: rest) => (some line :: state.1, state.2.set column rest)
      | _ => (none :: state.1, state.2))
    ([], sources)
  (row.reverse, left)

/-- The rows of sources whose lines stand next to each other. -/
def rows (separators : List (List Char)) (mark : Char) (columns : List Nat) :
    Nat → List (List (List Char)) → List Char
  | 0, _ => []
  | fuel + 1, sources =>
      let (row, left) := takeRow sources columns
      if row.all Option.isNone then []
      else
        joinBy separators (row.map fun line => line.getD []) ++
          mark :: rows separators mark columns fuel left

/-- Puts the lines of files next to each other. -/
def paste : Tool :=
  withOptions ["d=delimiters", "s serial", "z zero-terminated"] fun invocation options =>
    let mark := markOf options
    let list := (options.value? 'd').getD ['\t']
    let separators := if list.isEmpty then [[]] else separators list
    let operands := if options.operands.isEmpty then [['-']] else options.operands
    let (contents, outcome) := invocation.readAll operands
    if options.has 's' then
      outcome.say (contents.flatMap fun entry =>
        joinBy separators (bareRecords mark entry.2) ++ [mark])
    else if outcome.status ≠ 0 then
      { outcome with writes := outcome.writes.reverse.take 1 }
    else
      let sources := contents.map fun entry => bareRecords mark entry.2
      let first := (operands.findIdx? isInput).getD 0
      let columns := operands.zipIdx.map fun (operand, index) =>
        if isInput operand then first else index
      let fuel := (sources.map List.length).foldl max 0 + 1
      outcome.say (rows separators mark columns fuel sources)

/-- A line of a file that is joined with another one. -/
structure Row where
  /-- The line. -/
  line : List Char
  /-- The field by which it is joined. -/
  key : List Char
  /-- The fields. -/
  fields : List (List Char)

/-- The fields of a line. -/
def fieldsOf (separator : Option Char) (line : List Char) : List (List Char) :=
  match separator with
  | some mark => splitAt mark line
  | none =>
      (line.splitBy fun first second => Sorting.isBlank first == Sorting.isBlank second).filter
        fun part => !(part.head?.any Sorting.isBlank)

/-- A line as a row whose key is the field of a number. -/
def rowOf (separator : Option Char) (number : Nat) (line : List Char) : Row :=
  let fields := fieldsOf separator line
  ⟨line, (fields[number - 1]?).getD [], fields⟩

/-- Two rows that belong together, or one that has no partner. -/
abbrev Match := Option Row × Option Row

/-- The rows of two files that belong together, and those without a partner. -/
def pairRows (compare : List Char → List Char → Ordering) : Nat → List Row → List Row → List Match
  | 0, _, _ => []
  | _, [], rest => rest.map fun row => (none, some row)
  | _, rest, [] => rest.map fun row => (some row, none)
  | fuel + 1, first :: rest, second :: more =>
      match compare first.key second.key with
      | .lt => (some first, none) :: pairRows compare fuel rest (second :: more)
      | .gt => (none, some second) :: pairRows compare fuel (first :: rest) more
      | .eq =>
          let isSame := fun row : Row => compare row.key first.key == .eq
          let firsts := first :: rest.takeWhile isSame
          let seconds := second :: more.takeWhile fun row => compare row.key second.key == .eq
          (firsts.flatMap fun x => seconds.map fun y => (some x, some y)) ++
            pairRows compare fuel (rest.dropWhile isSame)
              (more.dropWhile fun row => compare row.key second.key == .eq)

/-- A field of the output: that of the keys, or that of a number in one of the files. -/
inductive OutputField where
  /-- The field of the keys. -/
  | key
  /-- A field of the first file. -/
  | first (number : Nat)
  /-- A field of the second file. -/
  | second (number : Nat)

/-- Reads a list of fields for the output. -/
def outputFields? (text : List Char) : Option (List OutputField) :=
  ((text.splitBy fun first second =>
    first != ',' && first != ' ' && second != ',' && second != ' ').filter fun item =>
      item != [','] && item != [' ']).mapM fun item =>
    match item with
    | ['0'] => some .key
    | '1' :: '.' :: number => (toNat? number).map .first
    | '2' :: '.' :: number => (toNat? number).map .second
    | _ => none

/-- Joins the lines of two files that have a field in common. -/
def join : Tool :=
  withOptions ["a=", "e=", "i ignore-case", "j=", "o=", "t=", "v=", "1=", "2=", "c-check-order",
    "n-nocheck-order", "H-header", "z zero-terminated"] fun invocation options =>
      match options.operands with
      | [] => invocation.misused "missing operand" 1
      | [only] => invocation.misused ("missing operand after " ++ curly only) 1
      | [first, second] =>
          let (contents, outcome) := invocation.readAll [first, second]
          match contents with
          | [(_, x), (_, y)] =>
              let mark := markOf options
              let separator := (options.value? 't').bind List.head?
              let number := fun letter : Char =>
                (((options.value? letter).orElse fun _ => options.value? 'j').bind toNat?).getD 1
              let rowsOf := fun letter : Char => fun text : List Char =>
                (bareRecords mark text).map (rowOf separator (number letter))
              let xs := rowsOf '1' x
              let ys := rowsOf '2' y
              let compare := fun first second : List Char =>
                if options.has 'i' then
                  Sorting.compareTexts (first.map Char.toLower) (second.map Char.toLower)
                else Sorting.compareTexts first second
              let (heads, xs, ys) :=
                if options.has 'H' then
                  ([((xs.head?), (ys.head?))], xs.drop 1, ys.drop 1)
                else ([], xs, ys)
              let found := pairRows compare (xs.length + ys.length + 1) xs ys
              let only := fun file : Char => (options.valuesOf 'v').contains [file]
              let also := fun file : Char => (options.valuesOf 'a').contains [file] || only file
              let isShown := fun entry : Match =>
                match entry with
                | (some _, some _) => !options.has 'v'
                | (some _, none) => also '1'
                | (none, some _) => also '2'
                | (none, none) => false
              let empty := (options.value? 'e').getD []
              let orEmpty := fun field : Option (List Char) =>
                match field with
                | some text => if text.isEmpty then empty else text
                | none => empty
              let others := fun letter : Char => fun row : Row =>
                ((row.fields.zipIdx 1).filter fun entry => entry.2 ≠ number letter).map
                  fun entry => orEmpty (some entry.1)
              let between := (separator.map fun mark => [mark]).getD [' ']
              let fieldAt := fun (row : Option Row) (number : Nat) =>
                orEmpty (row.bind fun row => row.fields[number - 1]?)
              let keyOf := fun entry : Match =>
                orEmpty ((entry.1.orElse fun _ => entry.2).map Row.key)
              let shown := fun entry : Match =>
                let fields := match (options.value? 'o').bind outputFields? with
                  | some list => list.map fun
                    | .key => keyOf entry
                    | .first number => fieldAt entry.1 number
                    | .second number => fieldAt entry.2 number
                  | none =>
                      if options.value? 'o' = some "auto".toList then
                        let pad := fun (letter : Char) (sample : List Row) (row : Option Row) =>
                          match row with
                          | some row => others letter row
                          | none => List.replicate
                              (((sample.head?).map fun row => row.fields.length - 1).getD 0) empty
                        keyOf entry :: (pad '1' xs entry.1 ++ pad '2' ys entry.2)
                      else
                        keyOf entry :: (((entry.1.map (others '1')).getD []) ++
                          ((entry.2.map (others '2')).getD []))
                between.intercalate fields ++ [mark]
              let outcome := outcome.say
                ((heads ++ found.filter isShown).flatMap shown)
              let isUnpaired := found.any fun entry => entry.1.isNone || entry.2.isNone
              let disorder := fun rows : List Row =>
                ((rows.zip (rows.drop 1)).zipIdx 2).find? fun entry =>
                  compare entry.1.1.key entry.1.2.key == .gt
              let wrong := [(first, xs), (second, ys)].filterMap fun entry =>
                (disorder entry.2).map fun place => (entry.1, place.2, place.1.2.line)
              if options.has 'n' ∨ (¬isUnpaired ∧ ¬options.has 'c') ∨ wrong.isEmpty then outcome
              else
                let outcome := wrong.foldl
                  (fun outcome entry =>
                    outcome.complain (invocation.complaint (entry.1 ++ ':' :: ofNat entry.2.1 ++
                      ": is not sorted: ".toList ++ entry.2.2)) 1)
                  outcome
                outcome.complain (invocation.complaint "input is not in sorted order".toList) 1
          | _ => outcome
      | _ => invocation.extra 2 options invocation.outcome

/-- The places of tabs that the values of options name: the places themselves, and the
distance of those that follow. -/
structure Tabs where
  /-- The places. -/
  places : List Nat
  /-- The distance of further places, zero if there are none. -/
  step : Nat

/-- Reads the places of tabs. -/
def Tabs.ofTexts (texts : List (List Char)) : Tabs :=
  let items := texts.flatMap fun text =>
    (text.splitBy fun first second => first.isDigit == second.isDigit).filterMap toNat?
  match items with
  | [] => ⟨[], 8⟩
  | [step] => ⟨[], step⟩
  | places => ⟨places, 0⟩

/-- The place of the first tab after a column, if there is one. -/
def Tabs.next? (tabs : Tabs) (column : Nat) : Option Nat :=
  match tabs.places.find? (column < ·) with
  | some place => some place
  | none => if tabs.step = 0 then none else some (column / tabs.step * tabs.step + tabs.step)

/-- A line with spaces in place of tabs. -/
def expandLine (tabs : Tabs) (onlyFirst : Bool) : Nat → Bool → List Char → List Char
  | _, _, [] => []
  | column, atStart, octet :: rest =>
      if octet = '\t' ∧ (atStart ∨ ¬onlyFirst) then
        let stop := (tabs.next? column).getD (column + 1)
        List.replicate (stop - column) ' ' ++ expandLine tabs onlyFirst stop atStart rest
      else if octet = '\x08' then
        octet :: expandLine tabs onlyFirst (column - 1) false rest
      else octet :: expandLine tabs onlyFirst (column + 1) (atStart && octet = ' ') rest

/-- The options of a program for tabs with an old form turned into a new one. -/
def modernTabs (arguments : List (List Char)) : List (List Char) :=
  arguments.map fun argument =>
    match argument with
    | '-' :: digit :: rest => if digit.isDigit then '-' :: 't' :: digit :: rest else argument
    | _ => argument

/-- Puts spaces in place of tabs. -/
def expand : Tool := fun invocation =>
  invocation.withOptions ["i initial", "t=tabs"] true 1 (modernTabs invocation.arguments)
    fun options =>
      let (contents, outcome) := invocation.readAll options.operands
      let tabs := Tabs.ofTexts (options.valuesOf 't')
      outcome.say ((contents.flatMap fun entry => records '\n' entry.2).flatMap fun record =>
        let line := expandLine tabs (options.has 'i') 0 true (bare '\n' record)
        if record.getLast? = some '\n' then line ++ ['\n'] else line)

/-- A line while tabs are put into it. -/
structure Unexpanding where
  /-- What is before the blanks at hand, in reverse. -/
  before : List Char
  /-- The blanks at hand, in reverse. -/
  blanks : List Char
  /-- The column. -/
  column : Nat
  /-- Whether the first of the blanks stands alone before the place of a tab. -/
  isAlone : Bool
  /-- Whether a blank comes before. -/
  isAfterBlank : Bool
  /-- Whether blanks are still replaced. -/
  converts : Bool

/-- Puts the blanks at hand into the line. -/
def Unexpanding.flush (line : Unexpanding) : Unexpanding :=
  let blanks :=
    if 1 < line.blanks.length && line.isAlone then line.blanks.dropLast ++ ['\t']
    else line.blanks
  if line.blanks.isEmpty then line
  else { line with before := blanks ++ line.before, blanks := [], isAlone := false }

/-- Adds an octet to a line in which tabs take the place of blanks that end at the place of a
tab: at the start of the line, or everywhere. -/
def Unexpanding.push (tabs : Tabs) (everywhere : Bool) (line : Unexpanding) (octet : Char) :
    Unexpanding :=
  if !line.converts then { line with before := octet :: line.before }
  else if octet = ' ' ∨ octet = '\t' then
    match tabs.next? line.column with
    | none =>
        let line := { line with converts := false }.flush
        { line with before := octet :: line.before }
    | some stop =>
        let isTab := octet = '\t'
        if !isTab ∧ !(line.isAfterBlank && line.column + 1 = stop) then
          { line with
            column := line.column + 1
            isAlone := line.isAlone || line.column + 1 = stop
            blanks := octet :: line.blanks
            isAfterBlank := true }
        else
          let first := if line.blanks.isEmpty then [] else ['\t']
          let kept := if line.isAlone then first else []
          let line := { line with
            column := if isTab then stop else line.column + 1
            blanks := kept
            isAfterBlank := true }.flush
          { line with before := '\t' :: line.before }
  else
    let column := if octet = '\x08' then line.column - 1 else line.column + 1
    let line := { line with column := column, isAfterBlank := false }.flush
    { line with before := octet :: line.before, converts := everywhere }

/-- A line with tabs in place of blanks. -/
def unexpandLine (tabs : Tabs) (everywhere : Bool) (text : List Char) : List Char :=
  let read := text.foldl (Unexpanding.push tabs everywhere) ⟨[], [], 0, false, true, true⟩
  read.flush.before.reverse

/-- Puts tabs in place of spaces. -/
def unexpand : Tool := fun invocation =>
  invocation.withOptions ["a all", "f-first-only", "t=tabs"] true 1
      (modernTabs invocation.arguments) fun options =>
    let (contents, outcome) := invocation.readAll options.operands
    let tabs := Tabs.ofTexts (options.valuesOf 't')
    let everywhere := (options.has 'a' || options.has 't') && !options.has 'f'
    outcome.say ((contents.flatMap fun entry => records '\n' entry.2).flatMap fun record =>
      let line := unexpandLine tabs everywhere (bare '\n' record)
      if record.getLast? = some '\n' then line ++ ['\n'] else line)

/-- The column after an octet. -/
def columnAfter (inOctets : Bool) (column : Nat) (octet : Char) : Nat :=
  if inOctets then column + 1
  else
    match octet with
    | '\x08' => column - 1
    | '\r' => 0
    | '\t' => column + 8 - column % 8
    | _ => column + 1

/-- A line cut into lines that are not wider than a number of columns.  The octets at hand
are in reverse. -/
def foldLine (width : Nat) (inOctets atBlanks : Bool) :
    Nat → List Char → Nat → List Char → List Char
  | 0, _, _, _ => []
  | _, current, _, [] => current.reverse
  | fuel + 1, current, column, octet :: rest =>
      let after := columnAfter inOctets column octet
      if after ≤ width then foldLine width inOctets atBlanks fuel (octet :: current) after rest
      else
        let isBlank := fun octet : Char => octet = ' ' || octet = '\t'
        let kept := current.takeWhile fun octet => !isBlank octet
        if atBlanks ∧ kept.length < current.length then
          let line := (current.drop kept.length).reverse
          let column := kept.reverse.foldl (columnAfter inOctets) 0
          line ++ '\n' :: foldLine width inOctets atBlanks fuel kept column (octet :: rest)
        else if current.isEmpty then
          foldLine width inOctets atBlanks fuel [octet] after rest
        else
          current.reverse ++ '\n' ::
            foldLine width inOctets atBlanks fuel [] 0 (octet :: rest)

/-- Cuts lines that are too wide. -/
def fold : Tool := fun invocation =>
  let arguments := invocation.arguments.map fun argument =>
    match argument with
    | '-' :: digit :: rest => if digit.isDigit then '-' :: 'w' :: digit :: rest else argument
    | _ => argument
  invocation.withOptions ["b bytes", "s spaces", "w=width"] true 1 arguments fun options =>
    match (options.value? 'w').map toNat? with
    | some none | some (some 0) =>
        invocation.fail ("invalid number of columns: " ++ curly ((options.value? 'w').getD [])) 1
    | width =>
        let width := (width.bind id).getD 80
        let (contents, outcome) := invocation.readAll options.operands
        outcome.say (contents.flatMap fun entry => (records '\n' entry.2).flatMap fun record =>
          let line := foldLine width (options.has 'b') (options.has 's')
            (4 * record.length + 4) [] 0 (bare '\n' record)
          if record.getLast? = some '\n' then line ++ ['\n'] else line)

/-- An item of a set of octets. -/
inductive SetItem where
  /-- Octets. -/
  | octets (octets : List Char)
  /-- The octets of a class. -/
  | named (name : String) (octets : List Char)
  /-- An octet that is repeated, as often as the other set wants if no number is given. -/
  | repeated (octet : Char) (count : Option Nat)

/-- The octet at the start of a text, which may be written as an escape. -/
def setOctet (text : List Char) : Option (Char × List Char) :=
  match text with
  | [] => none
  | '\\' :: rest =>
      let digits := (rest.take 3).takeWhile fun octet => '0' ≤ octet && octet ≤ '7'
      if digits.isEmpty then
        match rest with
        | [] => some ('\\', [])
        | letter :: rest =>
            let names : List (Char × Char) :=
              [('a', '\x07'), ('b', '\x08'), ('f', '\x0c'), ('n', '\n'), ('r', '\r'),
               ('t', '\t'), ('v', '\x0b')]
            some ((names.lookup letter).getD letter, rest)
      else
        let value := digits.foldl (fun value digit => value * 8 + (digit.toNat - 48)) 0
        if value < 256 then some (Char.ofNat value, rest.drop digits.length)
        else some (Char.ofNat (value / 8), rest.drop 2)
  | octet :: rest => some (octet, rest)

/-- All octets, in ascending order. -/
def allOctets : List Char :=
  (List.range 256).map Char.ofNat

/-- The items of the text of a set, or the words for what is wrong with it. -/
def setItems : Nat → List Char → Except String (List SetItem)
  | 0, _ => .ok []
  | fuel + 1, text => do
      match text with
      | [] => return []
      | '[' :: ':' :: rest =>
          let name := rest.takeWhile Char.isAlpha
          match rest.drop name.length with
          | ':' :: ']' :: more =>
              match classes.lookup (String.ofList name) with
              | some test =>
                  let members := allOctets.filter fun octet => octet.toNat < 128 && test octet
                  return .named (String.ofList name) members :: (← setItems fuel more)
              | none => .error ("invalid character class " ++ curly name)
          | _ => single fuel text
      | '[' :: '=' :: octet :: '=' :: ']' :: more =>
          return .octets [octet] :: (← setItems fuel more)
      | '[' :: rest =>
          match setOctet rest with
          | some (octet, '*' :: more) =>
              let digits := more.takeWhile Char.isDigit
              match more.drop digits.length with
              | ']' :: more =>
                  let count := if digits.head? = some '0' then
                      some (digits.foldl (fun value digit => value * 8 + (digit.toNat - 48)) 0)
                    else toNat? digits
                  let count := count.bind fun count => if count = 0 then none else some count
                  return .repeated octet count :: (← setItems fuel more)
              | _ => single fuel text
          | _ => single fuel text
      | text => single fuel text
where
  /-- The items of a text that starts with an octet or a range. -/
  single (fuel : Nat) (text : List Char) : Except String (List SetItem) :=
    match setOctet text with
    | none => .ok []
    | some (low, '-' :: rest) =>
        match setOctet rest with
        | none => do return .octets [low] :: (← setItems fuel ['-'])
        | some (high, more) =>
            if high.toNat < low.toNat then
              .error ("range-endpoints of '" ++
                toText (text.take (text.length - more.length)) ++
                "' are in reverse collating sequence order")
            else do
              return .octets ((List.range (high.toNat + 1 - low.toNat)).map fun index =>
                Char.ofNat (low.toNat + index)) :: (← setItems fuel more)
    | some (octet, rest) => do return .octets [octet] :: (← setItems fuel rest)

/-- The octets of items, where a repeated octet without a number fills up a length. -/
def setOctets (length : Nat) (items : List SetItem) : List Char :=
  let known := (items.map fun
    | .octets octets | .named _ octets => octets.length
    | .repeated _ (some count) => count
    | .repeated _ none => 0).foldl (· + ·) 0
  items.flatMap fun
    | .octets octets | .named _ octets => octets
    | .repeated octet (some count) => List.replicate count octet
    | .repeated octet none => List.replicate (length - known) octet

/-- Octets without those that follow an equal one of a set. -/
def squeeze (isIn : Char → Bool) (text : List Char) : List Char :=
  (text.foldl
    (fun (state : List Char × Option Char) octet =>
      if state.2 = some octet ∧ isIn octet then state else (octet :: state.1, some octet))
    ([], none)).1.reverse

/-- Replaces, drops or squeezes octets. -/
def tr : Tool := fun invocation =>
  invocation.withOptions ["c complement", "C", "d delete", "s squeeze-repeats", "t truncate-set1"]
      false 1 invocation.arguments fun options =>
    let deletes := options.has 'd'
    let squeezes := options.has 's'
    let least := if deletes == squeezes then 2 else 1
    let most := if deletes && !squeezes then 1 else 2
    match options.operands with
    | [] => invocation.misused "missing operand" 1
    | first :: rest =>
        if rest.length + 1 < least then
          invocation.misused ("missing operand after " ++ curly first ++
            (if squeezes then
              "\nTwo strings must be given when both deleting and squeezing repeats."
            else "\nTwo strings must be given when translating.")) 1
        else if most < rest.length + 1 then
          let operand := (options.operands[most]?).getD []
          invocation.misused ("extra operand " ++ curly operand ++
            (if rest.length = 1 then
              "\nOnly one string may be given when deleting without squeezing repeats."
            else "")) 1
        else
          let second? := rest.head?
          match setItems (first.length + 1) first,
              setItems ((second?.getD []).length + 1) (second?.getD []) with
          | .error message, _ => invocation.fail message 1
          | _, .error message => invocation.fail message 1
          | .ok firstItems, .ok secondItems =>
              let given := setOctets 0 firstItems
              let source := if options.has 'c' ∨ options.has 'C' then
                  allOctets.filter fun octet => !given.contains octet
                else given
              let target := setOctets source.length secondItems
              let translates := !deletes && second?.isSome
              if translates ∧ target.isEmpty ∧ ¬options.has 't' then
                invocation.fail
                  "when not truncating set1, string2 must be non-empty" 1
              else
                let source := if options.has 't' ∧ translates then source.take target.length
                  else source
                let table := source.zipIdx.foldl
                  (fun (table : Array Char) entry =>
                    match (target[entry.2]?).orElse fun _ => target.getLast? with
                    | some octet => table.set! entry.1.toNat octet
                    | none => table)
                  allOctets.toArray
                let member := fun set : List Char =>
                  let flags := set.foldl (fun (flags : Array Bool) octet =>
                    flags.set! octet.toNat true) (Array.replicate 256 false)
                  fun octet : Char => flags[octet.toNat]?.getD false
                let inSource := member source
                let inTarget := member target
                let text :=
                  if deletes then invocation.input.filter fun octet => !inSource octet
                  else if translates then
                    invocation.input.map fun octet => table[octet.toNat]?.getD octet
                  else invocation.input
                let text :=
                  if squeezes then squeeze (if second?.isSome then inTarget else inSource) text
                  else text
                { invocation.print text with input := [] }

end Columns
end Shell
end Snippets
