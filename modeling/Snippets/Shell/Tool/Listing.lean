import Snippets.Shell.Condition
import Snippets.Shell.Pattern
import Snippets.Shell.Tool.Making
import Snippets.Shell.Tool.Sorting

/-!
# Listing files

Directories are listed in rows or columns, with as much about each file as is wanted.
-/

namespace Snippets
namespace Shell

/-- The number of octets in a block of a disk. -/
def blockSize : Nat := 4096

/-- The letter of the kind of a node. -/
def kindLetter (names : List String) (node : FileNode) : Char :=
  match node with
  | .directory _ => 'd'
  | .link _ _ => 'l'
  | .file _ _ => if Condition.isDevice names then 'c' else '-'
  | .unreadable _ _ => '-'

/-- The number of octets that a node has. -/
def sizeOf (node : FileNode) : Nat :=
  match node with
  | .directory _ => blockSize
  | .link target _ => target.utf8ByteSize
  | .file content _ => content.length
  | .unreadable _ _ => 0

/-- The number of octets that a node takes on a disk. -/
def roomOf (node : FileNode) : Nat :=
  match node with
  | .directory _ => blockSize
  | .link _ _ => 0
  | .file content _ => (content.length + blockSize - 1) / blockSize * blockSize
  | .unreadable _ _ => 0

/-- The number of names that lead to a node. -/
def linkCount (tree : FileTree) (names : List String) (node : FileNode) : Nat :=
  match node with
  | .directory _ =>
      2 + ((tree.children names).filter fun name =>
        (tree.node? (names ++ [name])).any FileNode.isDirectory).length
  | node => namesOf tree node

/-- The number under which a disk knows a node. -/
def nodeNumber (tree : FileTree) (names : List String) (node : FileNode) : Nat :=
  if node.traits.identity ≠ 0 then 2000000 + node.traits.identity
  else 1000000 + ((tree.nodes.findIdx? fun entry => entry.1 = names).getD 0)

/-- A number of octets in the largest unit that gives at least one, rounded up, with one place
where the number is small. -/
def humanSize (base : Nat) (size : Nat) : List Char :=
  let rec shown (fuel : Nat) (unit : Nat) (letters : List Char) : List Char :=
    match fuel, letters with
    | 0, _ => ofNat size
    | _, [] => ofNat size
    | fuel + 1, letter :: rest =>
        let tenths := (size * 10 + unit - 1) / unit
        if tenths < 100 then
          ofNat (tenths / 10) ++ '.' :: ofNat (tenths % 10) ++ [letter]
        else
          let whole := (size + unit - 1) / unit
          if whole < base ∨ rest.isEmpty then ofNat whole ++ [letter]
          else shown fuel (unit * base) rest
  if size < base then ofNat size
  else shown 9 base (if base = 1024 then "KMGTPEZY".toList else "kMGTPEZY".toList)

namespace Listing

/-- Something to be listed. -/
structure Row where
  /-- How it is called. -/
  title : List Char
  /-- The names that lead to it. -/
  names : List String
  /-- What it is. -/
  node : FileNode

/-- The order of rows. -/
def order (options : Options) (first second : Row) : Ordering :=
  let byName := Sorting.compareTexts first.title second.title
  let key := match options.last? "tSUXvNf" with
    | some 'N' =>
        match (options.value? 'N').map String.ofList with
        | some "time" => 't'
        | some "size" => 'S'
        | some "extension" => 'X'
        | some "version" => 'v'
        | some "none" => 'U'
        | some "width" => 'w'
        | _ => ' '
    | some letter => letter
    | none => ' '
  let compared := match key with
    | 't' => (compare second.node.traits.modified first.node.traits.modified).then byName
    | 'S' => (compare (sizeOf second.node) (sizeOf first.node)).then byName
    | 'X' =>
        let ending := fun row : Row =>
          if row.title.contains '.' then (row.title.reverse.takeWhile (· != '.')).reverse else []
        (Sorting.compareTexts (ending first) (ending second)).then byName
    | 'v' => (Sorting.compareVersions first.title second.title).then byName
    | 'w' => (compare first.title.length second.title.length).then byName
    | 'U' | 'f' => .eq
    | _ => byName
  let compared := if options.has 'r' then compared.swap else compared
  if options.has 'E' then
    (compare (!first.node.isDirectory) (!second.node.isDirectory)).then compared
  else compared

/-- Rows in order. -/
def sorted (options : Options) (rows : List Row) : List Row :=
  rows.mergeSort fun first second => (order options first second).isLE

/-- The sign after a name that tells its kind. -/
def signOf (options : Options) (row : Row) : List Char :=
  let style := match options.last? "FpY" with
    | some 'Y' => String.ofList ((options.value? 'Y').getD [])
    | some 'F' => "classify"
    | some 'p' => "slash"
    | _ => "none"
  if style = "none" then []
  else
    match row.node with
    | .directory _ => ['/']
    | .link _ _ => if style = "slash" then [] else ['@']
    | .file _ traits | .unreadable _ traits =>
        if style = "classify" ∧ traits.mode &&& 0o111 ≠ 0 then ['*'] else []

/-- A name as it is listed. -/
def titleOf (options : Options) (name : List Char) : List Char :=
  let style := match options.last? "QbNK" with
    | some 'Q' => "c"
    | some 'b' => "escape"
    | some 'K' => String.ofList ((options.value? 'K').getD [])
    | _ => "literal"
  let escapes := fun (extra : List Char) =>
    (characters name).flatMap fun character =>
      if character = '\\' ∨ extra.contains character then ['\\', character]
      else if Quoting.isHidden character then (ofCharacters [character]).flatMap escapeOf
      else ofCharacters [character]
  match style with
  | "c" => '"' :: escapes ['"'] ++ ['"']
  | "escape" => escapes [' ']
  | "shell" | "shell-escape" => ofText (titled name)
  | "shell-always" | "shell-escape-always" => ofText (straight name)
  | _ =>
      if options.has 'q' then
        (characters name).flatMap fun character =>
          if Quoting.isHidden character then ['?'] else ofCharacters [character]
      else name

/-- The number of columns of a text. -/
def widthOf (text : List Char) : Nat :=
  (characters text).length

/-- The date of a node. -/
def dateOf (invocation : Invocation) (options : Options) (node : FileNode) : List Char :=
  let modified := node.traits.modified
  let style := if options.has 'J' then "full-iso".toList else (options.value? 'y').getD []
  let age := (invocation.clock : Int) - modified
  let isRecent := age < 15778476 * 1000000 ∧ 0 ≤ age
  let format := match String.ofList style with
    | "full-iso" => "%Y-%m-%d %H:%M:%S.%N %z"
    | "long-iso" => "%Y-%m-%d %H:%M"
    | "iso" => if isRecent then "%m-%d %H:%M" else "%Y-%m-%d "
    | other =>
        match other.toList with
        | '+' :: format => String.ofList format
        | _ => if isRecent then "%b %e %H:%M" else "%b %e  %Y"
  Clock.format invocation.zone (Int.fdiv modified 1000000)
    ((Int.fmod modified 1000000).toNat * 1000) format.toList

/-- The size of a node, as it is listed. -/
def shownSize (options : Options) (size : Nat) : List Char :=
  if options.has 'h' then humanSize 1024 size
  else if options.has 'j' then humanSize 1000 size
  else ofNat size

/-- The number of blocks of a node, as it is listed. -/
def shownRoom (options : Options) (room : Nat) : List Char :=
  if options.has 'h' then humanSize 1024 room
  else if options.has 'j' then humanSize 1000 room
  else ofNat ((room + 1023) / 1024)

/-- Cells of rows side by side, each column as wide as its widest cell. -/
def aligned (leftColumns : List Nat) (rows : List (List (List Char))) : List (List Char) :=
  let count := rows.foldl (fun count row => max count row.length) 0
  let widths := (List.range count).map fun column : Nat =>
    rows.foldl (fun width row => max width (widthOf (row[column]?.getD []))) 0
  rows.map fun row =>
    [' '].intercalate (row.zipIdx.map fun (cell, column) =>
      let width := widths[column]?.getD 0
      let space := List.replicate (width - widthOf cell) ' '
      if column + 1 = row.length then cell
      else if leftColumns.contains column then cell ++ space
      else space ++ cell)

/-- The line of a row with everything about it. -/
def longLines (invocation : Invocation) (options : Options) (rows : List Row) :
    List (List Char) :=
  let tree := invocation.tree
  let owner := if options.has 'n' then ['0'] else "root".toList
  let cells := rows.map fun row =>
    let traits := row.node.traits
    let start :=
      (if options.has 'i' then [ofNat (nodeNumber tree row.names row.node)] else []) ++
      (if options.has 's' then [shownRoom options (roomOf row.node)] else [])
    let arrow := match row.node with
      | .link target _ => " -> ".toList ++ titleOf options (ofText target)
      | _ => []
    let sign := match row.node with
      | .link _ _ => []
      | _ => signOf options row
    start ++
      [kindLetter row.names row.node :: Mode.letters traits.mode,
       ofNat (linkCount tree row.names row.node)] ++
      (if options.has 'g' then [] else [owner]) ++
      (if options.has 'o' ∨ options.has 'G' then [] else [owner]) ++
      [shownSize options (sizeOf row.node), dateOf invocation options row.node,
       titleOf options row.title ++ arrow ++ sign]
  let shift := (if options.has 'i' then 1 else 0) + (if options.has 's' then 1 else 0)
  aligned ([0, 2, 3].map fun column => column + shift) cells

/-- The widths of columns in which cells are listed, downwards or across, if they fit. -/
def columnWidths (isDown : Bool) (columns : Nat) (cells : List (List Char)) : List Nat :=
  let rows := (cells.length + columns - 1) / columns
  (List.range columns).map fun column : Nat =>
    (cells.zipIdx.foldl
      (fun width (cell, index) =>
        if (if isDown then index / rows else index % columns) = column then
          max width (widthOf cell)
        else width) 0)

/-- Spaces and tabs from one column to another. -/
def indent (start stop : Nat) : List Char :=
  let rec go : Nat → Nat → List Char
    | 0, _ => []
    | fuel + 1, place =>
        if stop ≤ place then []
        else if (place + 1) / 8 < stop / 8 then '\t' :: go fuel (place / 8 * 8 + 8)
        else ' ' :: go fuel (place + 1)
  go (stop - start) start

/-- Cells in columns. -/
def inColumns (isDown : Bool) (width : Nat) (cells : List (List Char)) : List Char :=
  let most := max 1 (min cells.length (width / 3))
  let fits := fun columns : Nat =>
    let widths := columnWidths isDown columns cells
    let used := widths.foldl (· + ·) 0 + 2 * (columns - 1)
    used < width && (!isDown || (columns - 1) * ((cells.length + columns - 1) / columns) <
      cells.length)
  let columns := (((List.range most).map fun less : Nat => most - less).find? fits).getD 1
  let widths := columnWidths isDown columns cells
  let rows := (cells.length + columns - 1) / columns
  (List.range rows).flatMap fun row : Nat =>
    let found := (List.range columns).filterMap fun column : Nat =>
      let index := if isDown then column * rows + row else row * columns + column
      (cells[index]?).map fun cell => (column, cell)
    let starts := fun column : Nat =>
      (widths.take column).foldl (fun place width => place + width + 2) 0
    (found.foldl
      (fun (state : Nat × List Char) (column, cell) =>
        let start := starts column
        (start + widthOf cell, state.2 ++ indent state.1 start ++ cell))
      (0, [])).2 ++ ['\n']

/-- Cells after one another, with commas between them. -/
def withCommas (width : Nat) (cells : List (List Char)) : List Char :=
  let (_, text) := cells.zipIdx.foldl
    (fun (state : Nat × List Char) (cell, index) =>
      let size := widthOf cell
      if index = 0 then (size, cell)
      else if state.1 + size + 2 < width then
        (state.1 + size + 2, state.2 ++ ", ".toList ++ cell)
      else (size, state.2 ++ ",\n".toList ++ cell))
    (0, [])
  text ++ ['\n']

/-- How rows are arranged. -/
def arrangement (options : Options) : Char :=
  match options.last? "lCxm1gonJM" with
  | some 'M' =>
      match String.ofList ((options.value? 'M').getD []) with
      | "long" | "verbose" => 'l'
      | "commas" => 'm'
      | "across" | "horizontal" => 'x'
      | "vertical" => 'C'
      | _ => '1'
  | some '1' => if ['l', 'g', 'o', 'n', 'J'].any options.has then 'l' else '1'
  | some letter => if ['g', 'o', 'n', 'J'].contains letter then 'l' else letter
  | none => '1'

/-- The text of rows. -/
def rowsText (invocation : Invocation) (options : Options) (rows : List Row) : List Char :=
  let start := fun row : Row =>
    (if options.has 'i' then ofNat (nodeNumber invocation.tree row.names row.node) ++ [' ']
      else []) ++
    (if options.has 's' then shownRoom options (roomOf row.node) ++ [' '] else [])
  let cells := rows.map fun row => start row ++ titleOf options row.title ++ signOf options row
  let width := match options.value? 'w' with
    | some text => (toNat? text).getD 80
    | none => ((invocation.valueOf? "COLUMNS").bind toNat?).getD 80
  let width := if width = 0 then 1000000 else width
  let mark := if options.has 'Z' then ['\x00'] else ['\n']
  if rows.isEmpty then []
  else
    match arrangement options with
    | 'l' => (longLines invocation options rows).flatMap fun line => line ++ mark
    | 'C' => inColumns true width cells
    | 'x' => inColumns false width cells
    | 'm' => withCommas width cells
    | _ =>
        if options.has 's' ∨ options.has 'i' then
          let cells := rows.map fun row =>
            (if options.has 'i' then [ofNat (nodeNumber invocation.tree row.names row.node)]
              else []) ++
            (if options.has 's' then [shownRoom options (roomOf row.node)] else []) ++
            [titleOf options row.title ++ signOf options row]
          (aligned [] cells).flatMap fun line => line ++ mark
        else cells.flatMap fun cell => cell ++ mark

/-- The rows of what is in a directory. -/
def inside (invocation : Invocation) (options : Options) (path : List Char)
    (names : List String) : List Row :=
  let tree := invocation.tree
  let isShown := fun name : List Char =>
    let all := options.has 'a' || options.has 'A' || options.has 'f'
    let isHidden := name.head? = some '.'
    let fits := fun pattern : List Char =>
      Pattern.isMatch ⟨false, false, .pattern⟩ (Pattern.ofText (characters pattern))
        (characters name)
    (all || !isHidden) && !(options.valuesOf 'I').any fits &&
      (all || !(options.valuesOf 'e').any fits) &&
      !(options.has 'B' && name.getLast? = some '~')
  let nodeAt := fun name : String =>
    let place := names ++ [name]
    match tree.node? place with
    | some (.link target traits) =>
        if options.has 'L' then
          match invocation.find tree (joinPath path (ofText name)) true with
          | .ok (found, node) => some (found, node)
          | .error _ => some (place, .link target traits)
        else some (place, .link target traits)
    | some node => some (place, node)
    | none => none
  let own := if options.has 'a' ∨ options.has 'f' then
      [⟨['.'], names, .directory ((tree.node? names).map FileNode.traits
        |>.getD NodeTraits.directory)⟩,
       ⟨['.', '.'], names.dropLast, .directory ((tree.node? names.dropLast).map FileNode.traits
        |>.getD NodeTraits.directory)⟩]
    else []
  let found := (tree.children names).filterMap fun name =>
    if isShown (ofText name) then
      (nodeAt name).map fun entry => (⟨ofText name, entry.1, entry.2⟩ : Row)
    else none
  sorted options (own ++ found)

/-- The listing of a directory and, where that is wanted, of all directories below it. -/
def directoryText (invocation : Invocation) (options : Options) :
    Nat → Bool → List Char → List String → List (List Char)
  | 0, _, _, _ => []
  | fuel + 1, isTitled, path, names =>
      let rows := inside invocation options path names
      let title := if isTitled then titleOf options path ++ ":\n".toList else []
      let total := rows.foldl (fun total row => total + roomOf row.node) 0
      let isLong := arrangement options = 'l'
      let totalLine := if isLong ∨ options.has 's' then
          "total ".toList ++ shownRoom options total ++ ['\n'] else []
      let here := title ++ totalLine ++ rowsText invocation options rows
      if options.has 'R' then
        here :: rows.flatMap fun row =>
          if row.node.isDirectory ∧ row.title ≠ ['.'] ∧ row.title ≠ ['.', '.'] then
            directoryText invocation options fuel true (joinPath path row.title) row.names
          else []
      else [here]

/-- The values that an option may have. -/
def wrongChoice (invocation : Invocation) (word : String) (value : List Char)
    (choices : List String) : Outcome :=
  invocation.misused ("invalid argument " ++ curly value ++ " for ‘--" ++ word ++
    "’\nValid arguments are:" ++
    String.join (choices.map fun choice => "\n  - ‘" ++ choice ++ "’")) 1

/-- Lists files. -/
def ls : Tool := fun invocation =>
  invocation.withOptions ["a all", "A almost-all", "b escape", "B ignore-backups", "c ", "C ",
      "d directory", "D dired", "f ", "J-full-time", "F?classify", "Y-file-type", "g ",
      "E-group-directories-first", "G no-group", "h human-readable", "j-si",
      "H dereference-command-line",
      "e:hide", "I=ignore", "i inode", "k kibibytes", "K:quoting-style", "l ", "L dereference",
      "m ", "M:format", "n numeric-uid-gid", "N literal", "o ", "p ", "q hide-control-chars",
      "Q quote-name", "r reverse", "R recursive", "s size", "S ", "N:sort", "T=tabsize", "t ",
      "u ", "U ", "v ", "w=width", "x ", "X ", "Z-zero", "1 ", "y:time-style", "W!color",
      "V:time"] true 2 invocation.arguments fun options =>
    let operands := if options.operands.isEmpty then [['.']] else options.operands
    let isLong := arrangement options = 'l'
    let follows := options.has 'L' || options.has 'H' ||
      !(isLong || options.has 'd' || options.has 'F' || options.has 'Y')
    let choices := ["none", "time", "size", "extension", "version", "width"]
    let wrong := (options.value? 'N').filter fun value => value ≠ [] ∧
      !choices.contains (String.ofList value)
    match wrong with
    | some value => wrongChoice invocation "sort" value choices
    | none =>
        let found := operands.map fun path =>
          let self := invocation.find invocation.tree path false
          let target := invocation.find invocation.tree path follows
          let answer : Except LookupFailure (List String × FileNode) := match target, self with
            | .ok entry, _ => .ok entry
            | .error failure, .ok entry =>
                if options.has 'L' then .error failure else .ok entry
            | .error failure, .error _ => .error failure
          let answer : Except LookupFailure (List String × FileNode) := match answer with
            | .ok (names, node) =>
                if path.getLast? = some '/' ∧ !node.isDirectory then
                  match invocation.find invocation.tree path true with
                  | .ok (names, .directory traits) => .ok (names, .directory traits)
                  | _ => .error LookupFailure.notDirectory
                else .ok (names, node)
            | .error failure => .error failure
          (path, answer)
        let outcome := found.foldl
          (fun outcome entry =>
            match entry.2 with
            | .ok _ => outcome
            | .error failure =>
                outcome.complain (invocation.complaint (ofText ("cannot access " ++
                  straight entry.1 ++ ": " ++ lookupMessage failure))) 2)
          invocation.outcome
        let rows : List Row := found.filterMap fun entry =>
          match entry.2 with
          | .ok (names, node) => some ⟨entry.1, names, node⟩
          | .error _ => none
        let (directories, files) :=
          if options.has 'd' then ([], rows)
          else rows.partition fun row => row.node.isDirectory
        let isTitled := 1 < operands.length || options.has 'R'
        let parts := (sorted options directories).flatMap fun row =>
          directoryText invocation options (invocation.tree.nodes.length + 2) isTitled
            row.title row.names
        let first := if files.isEmpty then []
          else [rowsText invocation options (sorted options files)]
        outcome.say (['\n'].intercalate (first ++ parts))

/-- The kind of a node, in words. -/
def kindWords (names : List String) (node : FileNode) : List Char :=
  if kindLetter names node = 'c' then "character special file".toList
  else (Making.kindOf node).toList

/-- The bits of the kind of a node. -/
def kindBits (names : List String) (node : FileNode) : Nat :=
  match kindLetter names node with
  | 'd' => 0o040000
  | 'l' => 0o120000
  | 'c' => 0o020000
  | _ => 0o100000

/-- What a letter of a format stands for. -/
def factOf (invocation : Invocation) (path : List Char) (names : List String)
    (node : FileNode) (letter : Char) : Option (Int ⊕ List Char) :=
  let number := fun value : Nat => some (.inl (value : Int))
  let traits := node.traits
  let time := Clock.format invocation.zone (Int.fdiv traits.modified 1000000)
    ((Int.fmod traits.modified 1000000).toNat * 1000) "%Y-%m-%d %H:%M:%S.%N %z".toList
  match letter with
  | 'a' => some (.inr (Mode.octal 1 traits.mode))
  | 'A' => some (.inr (kindLetter names node :: Mode.letters traits.mode))
  | 'b' => number ((roomOf node) / 512)
  | 'B' => number 512
  | 'd' => number 2049
  | 'D' => some (.inr "801".toList)
  | 'f' => some (.inr (Nat.toDigits 16 (kindBits names node + traits.mode)))
  | 'F' => some (.inr (kindWords names node))
  | 'g' | 'u' => number 0
  | 'G' | 'U' => some (.inr "root".toList)
  | 'h' => number (linkCount invocation.tree names node)
  | 'i' => number (nodeNumber invocation.tree names node)
  | 'm' => some (.inr ['/'])
  | 'n' => some (.inr path)
  | 'N' =>
      match node with
      | .link target _ =>
          some (.inr (ofText (straight path ++ " -> " ++ straight (ofText target))))
      | _ => some (.inr (ofText (straight path)))
  | 'o' => number blockSize
  | 's' => number (if kindLetter names node = 'c' then 0 else sizeOf node)
  | 't' => some (.inr (if kindLetter names node = 'c' then ['1'] else ['0']))
  | 'T' => some (.inr (if kindLetter names node = 'c' then ['3'] else ['0']))
  | 'w' | 'x' | 'y' | 'z' => some (.inr time)
  | 'W' | 'X' | 'Y' | 'Z' => some (.inl (Int.fdiv traits.modified 1000000))
  | _ => none

/-- The characters that change how a field is written. -/
def flagCharacters : List Char := "-+ #0'I".toList

/-- A format with the facts about a file filled in. -/
def filledFormat (invocation : Invocation) (path : List Char) (names : List String)
    (node : FileNode) (escapes : Bool) : Nat → List Char → List Char
  | 0, _ => []
  | _, [] => []
  | fuel + 1, octet :: rest =>
      let goOn := filledFormat invocation path names node escapes fuel
      if octet = '%' then
        let flags := rest.takeWhile flagCharacters.contains
        let rest₁ := rest.drop flags.length
        let width := rest₁.takeWhile Char.isDigit
        let rest₂ := rest₁.drop width.length
        let (precision, rest₃) := match rest₂ with
          | '.' :: more =>
              let digits := more.takeWhile Char.isDigit
              (some ((toNat? digits).getD 0), more.drop digits.length)
          | _ => (none, rest₂)
        match rest₃ with
        | [] => '%' :: rest
        | '%' :: after => '%' :: goOn after
        | letter :: after =>
            let fact := factOf invocation path names node letter
            let text := match fact with
              | some (.inl value) =>
                  let digits := ofInt value
                  let digits := match precision, ['W', 'X', 'Y', 'Z'].contains letter with
                    | some places, true =>
                        if places = 0 then digits
                        else
                          let micros := (Int.fmod node.traits.modified 1000000).toNat
                          digits ++ '.' :: ((padLeft 6 '0' (ofNat micros) ++
                            List.replicate (places - 6) '0').take places)
                    | some places, false => padLeft places '0' digits
                    | none, _ => digits
                  if flags.contains '+' ∧ !letter.isLower ∧ ['W', 'X', 'Y', 'Z'].contains letter
                  then '+' :: digits else digits
              | some (.inr text) =>
                  let text := if letter = 'a' ∧ flags.contains '#' ∧ text ≠ ['0'] then
                      '0' :: text else text
                  match precision with
                  | some count => if letter = 'a' then text else text.take count
                  | none => text
              | none => ['?']
            let size := (toNat? width).getD 0
            let isNumber : Bool := letter = 'a' || (match fact with
              | some (.inl _) => true
              | _ => false)
            let shown :=
              if flags.contains '-' then padRight size text
              else padLeft size (if flags.contains '0' ∧ isNumber then '0' else ' ') text
            shown ++ goOn after
      else if octet = '\\' ∧ escapes then
        match rest with
        | 'x' :: more =>
            let digits := (more.take 2).takeWhile fun octet =>
              (octet.isDigit || ('a' ≤ octet && octet ≤ 'f') || ('A' ≤ octet && octet ≤ 'F'))
            if digits.isEmpty then 'x' :: goOn more
            else
              let code := digits.foldl (fun value digit => value * 16 + Words.digitValue digit) 0
              Char.ofNat code :: goOn (more.drop digits.length)
        | letter :: more =>
            let digits := (rest.take 3).takeWhile Mode.isOctal
            if !digits.isEmpty then
              Char.ofNat (Mode.ofOctal digits % 256) :: goOn (rest.drop digits.length)
            else
              match Print.commonEscapes.lookup letter with
              | some octet => octet :: goOn more
              | none => if letter = 'e' then '\x1b' :: goOn more else letter :: goOn more
        | [] => ['\\']
      else octet :: goOn rest

/-- Prints what is known about files. -/
def stat : Tool :=
  withOptions ["c=format", "p:printf", "L dereference", "f file-system", "t terse", "C:cached"]
    fun invocation options =>
      if options.operands.isEmpty then invocation.misused "missing operand" 1
      else
        options.operands.foldl
          (fun outcome path =>
            match invocation.find outcome.tree path (options.has 'L') with
            | .error failure =>
                if path = ['-'] then outcome.say ['-', '\n']
                else
                  invocation.refuse ("cannot statx " ++ straight path ++ ": " ++
                    lookupMessage failure) outcome
            | .ok (names, node) =>
                let fill := fun (escapes : Bool) (format : List Char) =>
                  filledFormat invocation path names node escapes (format.length + 1) format
                match options.last? "cp" with
                | some 'c' => outcome.say (fill false ((options.value? 'c').getD []) ++ ['\n'])
                | some _ => outcome.say (fill true ((options.value? 'p').getD []))
                | none =>
                    if options.has 't' then
                      outcome.say (fill false
                        "%n %s %b %f %u %g %D %i %h %t %T %X %Y %Z %W %o\n".toList)
                    else
                      let size := "  Size: %-10s\tBlocks: %-10b IO Block: %-6o %F\n"
                      outcome.say (fill false ("  File: ".toList ++
                        (match node with
                         | .link target _ => path ++ " -> ".toList ++ ofText target
                         | _ => path) ++ '\n' :: (size ++
                        "Device: 8,1\tInode: %-10i  Links: %h\n" ++
                        "Access: (%04a/%A)  Uid: (    0/    root)   Gid: (    0/    root)\n" ++
                        "Access: %x\nModify: %y\nChange: %z\n Birth: %w\n").toList)))
          invocation.outcome

/-- The absolute path that names stand for. -/
def absolute (names : List String) : List Char :=
  ofText ("/" ++ "/".intercalate names)

/-- The names of a path that need not lead anywhere. -/
def lenientNames (invocation : Invocation) (follows : Bool) (path : List Char) : List String :=
  let start := if path.head? = some '/' then [] else invocation.directory
  (Path.parts (toText path)).foldl
    (fun names part =>
      if part = "" ∨ part = "." then names
      else if part = ".." then names.dropLast
      else
        let next := names ++ [part]
        if follows then
          match invocation.tree.follow names [part] with
          | .ok found => found
          | .error _ => next
        else next)
    start

/-- How much of a path has to lead somewhere. -/
inductive Strictness where
  /-- All of it. -/
  | whole
  /-- All but the last name. -/
  | butLast
  /-- Nothing. -/
  | nothing
  deriving DecidableEq

/-- The names that a path leads to without links. -/
def canonical (invocation : Invocation) (strictness : Strictness) (path : List Char) :
    Except LookupFailure (List String) :=
  match strictness with
  | .nothing =>
      if path.isEmpty then .error .missing else .ok (lenientNames invocation true path)
  | .whole =>
      match invocation.find invocation.tree path true with
      | .ok (names, node) =>
          if path.getLast? = some '/' ∧ !node.isDirectory then .error .notDirectory
          else .ok names
      | .error failure => .error failure
  | .butLast =>
      match invocation.place invocation.tree path with
      | .ok names =>
          match invocation.tree.node? names with
          | some node =>
              if path.getLast? = some '/' ∧ !node.isDirectory then .error .notDirectory
              else .ok names
          | none => .ok names
      | .error failure => .error failure

/-- Prints what links hold, or the paths that they lead to. -/
def readlink : Tool :=
  withOptions ["f canonicalize", "e canonicalize-existing", "m canonicalize-missing",
      "n no-newline", "q quiet", "s silent", "v verbose", "z zero"] fun invocation options =>
    if options.operands.isEmpty then invocation.misused "missing operand" 1
    else
      let isSingle := options.operands.length = 1
      let mark :=
        if options.has 'n' ∧ isSingle then [] else if options.has 'z' then ['\x00'] else ['\n']
      let start :=
        if options.has 'n' ∧ !isSingle then
          invocation.outcome.write 2
            (invocation.complaint "ignoring --no-newline with multiple arguments".toList)
        else invocation.outcome
      options.operands.foldl
        (fun outcome path =>
          let found : Except String (List Char) :=
            match options.last? "fem" with
            | some letter =>
                let strictness := match letter with
                  | 'f' => Strictness.butLast
                  | 'e' => .whole
                  | _ => .nothing
                match canonical invocation strictness path with
                | .ok names => .ok (absolute names)
                | .error failure => .error (lookupMessage failure)
            | none =>
                match invocation.find invocation.tree path false with
                | .ok (_, .link target _) => .ok (ofText target)
                | .ok _ => .error "Invalid argument"
                | .error failure => .error (lookupMessage failure)
          match found with
          | .ok text => outcome.say (text ++ mark)
          | .error message =>
              if options.has 'v' then
                invocation.refuse (titled path ++ ": " ++ message) outcome
              else outcome.withStatus 1)
        start

/-- Prints paths without links in them. -/
def realpath : Tool :=
  withOptions ["e canonicalize-existing", "m canonicalize-missing", "L logical", "P physical",
      "q quiet", "s strip", "s no-symlinks", "t:relative-to", "b:relative-base", "z zero"]
    fun invocation options =>
      if options.operands.isEmpty then invocation.misused "missing operand" 1
      else
        let strictness := match options.last? "em" with
          | some 'e' => Strictness.whole
          | some _ => .nothing
          | none => .butLast
        let resolve := fun path : List Char =>
          if options.has 's' ∧ !path.isEmpty then
            match canonical invocation strictness path with
            | .ok _ => .ok (lenientNames invocation false path)
            | .error failure => .error failure
          else canonical invocation strictness path
        let mark := if options.has 'z' then '\x00' else '\n'
        let target := (options.value? 't').map fun path => (path, resolve path)
        let base := (options.value? 'b').map fun path => (path, resolve path)
        let wrong := match target, base with
          | some (path, .error failure), _ => some (path, failure)
          | _, some (path, .error failure) => some (path, failure)
          | _, _ => none
        match wrong with
        | some (path, failure) =>
            invocation.fail (titled path ++ ": " ++ lookupMessage failure) 1
        | none =>
            let shown := fun names : List String =>
              match target, base with
              | some (_, .ok start), none => ofText (relative start names)
              | some (_, .ok start), some (_, .ok base) =>
                  if base.isPrefixOf names then ofText (relative start names) else absolute names
              | none, some (_, .ok base) =>
                  if base.isPrefixOf names then ofText (relative base names) else absolute names
              | _, _ => absolute names
            options.operands.foldl
              (fun outcome path =>
                match resolve path with
                | .ok names => outcome.say (shown names ++ [mark])
                | .error failure =>
                    if options.has 'q' then outcome.withStatus 1
                    else
                      invocation.refuse (titled path ++ ": " ++ lookupMessage failure) outcome)
              invocation.outcome
where
  /-- The path that leads from a directory to other names. -/
  relative (directory names : List String) : String :=
    let common := ((List.zip directory names).takeWhile fun pair => pair.1 = pair.2).length
    let parts := List.replicate (directory.length - common) ".." ++ names.drop common
    if parts.isEmpty then "." else "/".intercalate parts

/-- The room that everything below a path takes, and the lines that tell of it. -/
def usage (invocation : Invocation) (options : Options) (line : Nat → List Char → List Char)
    (size : FileNode → Nat) (deepest : Option Nat) :
    Nat → Nat → List Char → List String → Nat × List Char
  | 0, _, _, _ => (0, [])
  | fuel + 1, depth, path, names =>
      match invocation.tree.node? names with
      | none => (0, [])
      | some (.directory traits) =>
          let (total, separate, text) := (invocation.tree.children names).foldl
            (fun (state : Nat × Nat × List Char) name =>
              let (total, separate, text) := state
              let place := names ++ [name]
              let isDirectory := (invocation.tree.node? place).any FileNode.isDirectory
              let (room, inner) := usage invocation options line size deepest fuel (depth + 1)
                (joinPath path (ofText name)) place
              (total + room, if isDirectory then separate else separate + room, text ++ inner))
            (size (.directory traits), size (.directory traits), [])
          let isShown := deepest.all fun deepest => depth ≤ deepest
          (total, text ++ if isShown then line (if options.has 'S' then separate else total) path
            else [])
      | some node =>
          let room := size node
          let isShown := depth = 0 || (options.has 'a' &&
            deepest.all fun deepest => depth ≤ deepest)
          (room, if isShown then line room path else [])

/-- Prints the room that files take. -/
def du : Tool :=
  withOptions ["0 null", "a all", "A-apparent-size", "b bytes", "B=block-size", "c total",
      "d=max-depth", "D dereference-args", "h human-readable", "H ", "k ",
      "L dereference", "l count-links", "m ",
      "P no-dereference", "s summarize", "S separate-dirs", "x one-file-system", "X=exclude-from",
      "e:exclude", "i-inodes", "j-si", "t=threshold", "y!time"] fun invocation options =>
    match (options.value? 'd').map toNat? with
    | some none =>
        invocation.misused ("invalid maximum depth " ++ curly ((options.value? 'd').getD [])) 1
    | deepest =>
        let deepest := if options.has 's' then some 0 else deepest.getD none
        let isApparent := options.has 'b' || options.has 'A'
        let size := fun node : FileNode =>
          if isApparent then (if node.isDirectory then 0 else sizeOf node) else roomOf node
        let unit := match options.last? "bBkm" with
          | some 'b' => 1
          | some 'k' => 1024
          | some 'm' => 1024 * 1024
          | some _ => ((options.value? 'B').bind Size.ofText?).getD 1024
          | none => 1024
        let mark := if options.has '0' then '\x00' else '\n'
        let line := fun (room : Nat) (path : List Char) =>
          let shown := if options.has 'h' then humanSize 1024 room
            else if options.has 'j' then humanSize 1000 room
            else ofNat ((room + unit - 1) / (max unit 1))
          shown ++ '\t' :: path ++ [mark]
        let operands := if options.operands.isEmpty then [['.']] else options.operands
        let (total, outcome) := operands.foldl
          (fun (state : Nat × Outcome) path =>
            let (total, outcome) := state
            match invocation.find invocation.tree path false with
            | .error failure =>
                (total, invocation.refuse ("cannot access " ++ straight path ++ ": " ++
                  lookupMessage failure) outcome)
            | .ok (names, _) =>
                let (room, text) := usage invocation options line size deepest
                  (invocation.tree.nodes.length + 2) 0 path names
                (total + room, outcome.say text))
          (0, invocation.outcome)
        if options.has 'c' then outcome.say (line total "total".toList) else outcome

end Listing
end Shell
end Snippets
