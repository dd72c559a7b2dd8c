import Snippets.Shell.Regex
import Snippets.Shell.Tool.Options
import Snippets.Terminal.Grapheme

/-!
# Showing files

Programs that print files as a whole or in part, with numbers or marks on the lines, and
one that counts what is in them.
-/

namespace Snippets
namespace Shell

/-- The records of octets, each with the mark at its end, after those already found and the
record at hand, both in reverse. -/
def recordsFrom (mark : Char) (line : List Char) (found : List (List Char)) :
    List Char → List (List Char)
  | [] => (if line = [] then found else line.reverse :: found).reverse
  | octet :: rest =>
      if octet = mark then recordsFrom mark [] ((octet :: line).reverse :: found) rest
      else recordsFrom mark (octet :: line) found rest

/-- The records of octets, each with the mark at its end.  The last one may lack it. -/
def records (mark : Char) (octets : List Char) : List (List Char) :=
  recordsFrom mark [] [] octets

/-- A record without the mark at its end. -/
def bare (mark : Char) (record : List Char) : List Char :=
  if record.getLast? = some mark then record.dropLast else record

/-- The records of octets without the marks at their ends. -/
def bareRecords (mark : Char) (octets : List Char) : List (List Char) :=
  (records mark octets).map (bare mark)

/-- Records with marks after them. -/
def withMarks (mark : Char) (records : List (List Char)) : List Char :=
  records.flatMap fun record => record ++ [mark]

/-- The mark that ends a record: a zero if the option for it is given, and a line feed
otherwise. -/
def markOf (options : Options) : Char :=
  if options.has 'z' then '\x00' else '\n'

namespace Display

/-- An octet as it is shown where none may be hidden. -/
def visible (octet : Char) : List Char :=
  let shown := fun code : Nat =>
    if code < 32 then ['^', Char.ofNat (code + 64)]
    else if code = 127 then ['^', '?']
    else [Char.ofNat code]
  if octet.toNat < 128 then shown octet.toNat
  else 'M' :: '-' :: shown (octet.toNat - 128)

/-- How far the lines have been numbered. -/
structure Numbering where
  /-- The number of the next line. -/
  next : Nat
  /-- Whether a line starts. -/
  atStart : Bool
  /-- The number of empty lines before. -/
  empty : Nat

/-- A line as the options want it, and the numbering after it. -/
def catLine (options : Options) (numbering : Numbering) (record : List Char) :
    List Char × Numbering :=
  let ends := record.getLast? = some '\n'
  let text := bare '\n' record
  let isEmpty := numbering.atStart ∧ text.isEmpty
  if options.has 's' ∧ isEmpty ∧ 0 < numbering.empty then
    ([], { numbering with empty := numbering.empty + 1 })
  else
    let isNumbered := numbering.atStart ∧
      (if options.has 'b' then !isEmpty else options.has 'n')
    let number := if isNumbered then padLeft 6 ' ' (ofNat numbering.next) ++ ['\t'] else []
    let showsAll := options.has 'v' || options.has 'A' || options.has 'e' || options.has 't'
    let showsTabs := options.has 'T' || options.has 'A' || options.has 't'
    let showsEnds := options.has 'E' || options.has 'A' || options.has 'e'
    let shown := if !showsAll && !showsTabs then text else text.flatMap fun octet =>
      if octet = '\t' then (if showsTabs then ['^', 'I'] else [octet])
      else if showsAll then visible octet
      else [octet]
    (number ++ shown ++ (if ends then (if showsEnds then ['$', '\n'] else ['\n']) else []),
      ⟨if isNumbered then numbering.next + 1 else numbering.next, ends,
        if isEmpty && ends then numbering.empty + 1 else 0⟩)

/-- Prints files one after the other. -/
def cat : Tool :=
  withOptions ["A show-all", "b number-nonblank", "e", "E show-ends", "n number",
    "s squeeze-blank", "t", "T show-tabs", "u", "v show-nonprinting"] fun invocation options =>
    let operands := if options.operands.isEmpty then [['-']] else options.operands
    let isPlain := options.given.all fun entry => entry.1 = 'u'
    let (outcome, _, _) := operands.foldl
      (fun (result : Outcome × Numbering × Bool) operand =>
        let (outcome, numbering, isUsed) := result
        match invocation.read operand with
        | .error message =>
            (outcome.complain (invocation.complaint (ofText (titled operand ++ ": " ++ message)))
              1, numbering, isUsed)
        | .ok text =>
            let text := if isUsed && isInput operand then [] else text
            let outcome := if isInput operand then { outcome with input := [] } else outcome
            let isUsed := isUsed || isInput operand
            if isPlain then (outcome.say text, numbering, isUsed)
            else
              let (shown, numbering) := (records '\n' text).foldl
                (fun (state : List (List Char) × Numbering) record =>
                  let (line, numbering) := catLine options state.2 record
                  (line :: state.1, numbering))
                ([], numbering)
              (outcome.say shown.reverse.flatten, numbering, isUsed))
      (invocation.outcome, ⟨1, true, 0⟩, false)
    outcome

/-- Prints the lines of each file in reverse order. -/
def tac : Tool :=
  withOptions ["b before", "r regex", "s=separator"] fun invocation options =>
    let (contents, outcome) := invocation.readAllWith
      (fun path message =>
        "failed to open " ++ straight path ++ " for reading: " ++ message) 1 options.operands
    let mark := (options.value? 's').getD ['\n']
    let rec split : Nat → List Char → List Char → List (List Char)
      | 0, _, _ => []
      | _, [], [] => []
      | _, current, [] => [current.reverse]
      | fuel + 1, current, octet :: rest =>
          if mark.isPrefixOf (octet :: rest) then
            let after := (octet :: rest).drop mark.length
            if options.has 'b' then
              let following := split fuel mark.reverse after
              if current.isEmpty then following else current.reverse :: following
            else (mark.reverse ++ current).reverse :: split fuel [] after
          else split fuel (octet :: current) rest
    outcome.say (contents.flatMap fun entry =>
      (split (2 * entry.2.length + 2) [] entry.2).reverse.flatten)

/-- Prints each line backwards. -/
def rev : Tool :=
  filter [] fun _ text => (records '\n' text).flatMap fun record =>
    let line := ofCharacters (characters (bare '\n' record)).reverse
    if record.getLast? = some '\n' then line ++ ['\n'] else line

/-- Which part of a file is shown. -/
structure Extent where
  /-- Whether octets count, and not lines. -/
  inOctets : Bool
  /-- Whether the number is one of those that are left out. -/
  isRest : Bool
  /-- The number. -/
  count : Nat

/-- The arguments with an old form of the options turned into a new one. -/
def modernise (isTail : Bool) (arguments : List (List Char)) : List (List Char) :=
  match arguments with
  | (sign :: rest) :: more =>
      let digits := rest.takeWhile Char.isDigit
      let letters := rest.drop digits.length
      if (sign = '-' ∨ (isTail ∧ sign = '+')) ∧ digits ≠ [] then
        let unit := letters.find? fun letter => letter = 'c' ∨ letter = 'b' ∨ letter = 'k'
        let kind := if unit.isSome then ['-', 'c'] else ['-', 'n']
        let flags := letters.filter fun letter => letter = 'q' ∨ letter = 'v' ∨ letter = 'f'
        let count := (if sign = '+' then ['+'] else []) ++ digits ++
          (match unit with
            | some 'b' => ['b']
            | some 'k' => ['k']
            | _ => [])
        kind :: count :: (flags.map fun letter => ['-', letter]) ++ more
      else arguments
  | arguments => arguments

/-- The part of a file that the options of a program name, or the words for a number that is
none. -/
def extent (isTail : Bool) (options : Options) : Except String Extent :=
  match options.given.reverse.find? fun entry => entry.1 = 'n' ∨ entry.1 = 'c' with
  | none => .ok ⟨false, false, 10⟩
  | some (letter, text) =>
      let sign := if isTail then '+' else '-'
      let isRest := text.head? = some sign
      let digits := if isRest ∨ (isTail ∧ text.head? = some '-') then text.drop 1 else text
      match (if digits.isEmpty then none else Size.ofText? digits) with
      | some count => .ok ⟨letter = 'c', isRest, count⟩
      | none =>
          .error ("invalid number of " ++ (if letter = 'c' then "bytes" else "lines") ++ ": " ++
            curly (if isRest ∧ isTail then text else if isTail then digits else text))

/-- The start of a text. -/
def Extent.head (extent : Extent) (mark : Char) (text : List Char) : List Char :=
  if extent.inOctets then
    text.take (if extent.isRest then text.length - extent.count else extent.count)
  else
    let found := records mark text
    if extent.isRest then (found.take (found.length - extent.count)).flatten
    else if found.length ≤ extent.count then text
    else (found.take extent.count).flatten

/-- The end of a text. -/
def Extent.tail (extent : Extent) (mark : Char) (text : List Char) : List Char :=
  if extent.inOctets then
    text.drop (if extent.isRest then extent.count - 1 else text.length - extent.count)
  else
    let found := records mark text
    if extent.isRest then (found.drop (extent.count - 1)).flatten
    else (found.drop (found.length - extent.count)).flatten

/-- The name of a file as a heading. -/
def heading (path : List Char) : List Char :=
  "==> ".toList ++ (if path = ['-'] then "standard input".toList else path) ++
    " <==\n".toList

/-- The number of octets that are read from standard input at once. -/
def blockSize : Nat := 8192

/-- What is left on standard input after a part at its start has been shown. -/
def Extent.rest (extent : Extent) (invocation : Invocation) (shown : Nat) : List Char :=
  let input := invocation.input
  if extent.isRest then []
  else if extent.inOctets ∨ invocation.isFile then input.drop shown
  else input.drop ((shown + blockSize - 1) / blockSize * blockSize)

/-- A program that shows a part of each file. -/
def choosing (isTail : Bool) : Tool := fun invocation =>
  invocation.withOptions ["c=bytes", "n=lines", "q quiet", "q silent", "v verbose",
      "z zero-terminated", "f?follow", "F", "s=sleep-interval"] true 1
      (modernise isTail invocation.arguments) fun options =>
    match extent isTail options with
    | .error message => invocation.fail message 1
    | .ok extent =>
        let operands := if options.operands.isEmpty then [['-']] else options.operands
        let isTitled := match options.last? "qv" with
          | some 'v' => true
          | some _ => false
          | none => decide (1 < operands.length)
        let (outcome, _) := operands.foldl
          (fun (result : Outcome × Bool) operand =>
            let (outcome, isFirst) := result
            let title := if isTitled then (if isFirst then [] else ['\n']) ++ heading operand
              else []
            match invocation.read operand with
            | .error "Is a directory" =>
                ((outcome.say title).complain (invocation.complaint (ofText
                  ("error reading " ++ straight operand ++ ": Is a directory"))) 1, false)
            | .error message =>
                (outcome.complain (invocation.complaint (ofText
                  ("cannot open " ++ straight operand ++ " for reading: " ++ message))) 1, isFirst)
            | .ok text =>
                let text := if isInput operand then outcome.input else text
                let shown :=
                  if isTail then extent.tail (markOf options) text
                  else extent.head (markOf options) text
                let outcome := outcome.say (title ++ shown)
                let outcome :=
                  if isInput operand then
                    { outcome with
                      input := if isTail then [] else extent.rest invocation shown.length }
                  else outcome
                (outcome, false))
          (invocation.outcome, true)
        if isTail && (options.has 'f' || options.has 'F') then
          { outcome with pause := 1000000000000 }
        else outcome

/-- The style in which lines are numbered. -/
inductive NumberStyle where
  /-- All lines have a number. -/
  | all
  /-- Lines with something in them have one. -/
  | filled
  /-- No line has one. -/
  | none
  /-- Lines that match have one. -/
  | matching (expression : Expression)

/-- The style that the value of an option names. -/
def NumberStyle.ofText? (text : List Char) : Option NumberStyle :=
  match text with
  | 'a' :: _ => some .all
  | 't' :: _ => some .filled
  | 'n' :: _ => some .none
  | 'p' :: pattern => (Expression.ofText (.lenient false) pattern).toOption.map .matching
  | _ => Option.none

/-- Whether a line has a number. -/
def NumberStyle.isNumbered (line : List Char) : NumberStyle → Bool
  | .all => true
  | .filled => !line.isEmpty
  | .none => false
  | .matching expression => (expression.find (characters line)).isSome

/-- What the parts of a numbered page look like, and how its lines are counted. -/
structure NumberForm where
  /-- The styles of the body, the header and the footer. -/
  styles : NumberStyle × NumberStyle × NumberStyle
  /-- The text that starts a part of a page. -/
  delimiter : List Char
  /-- What is added for each number. -/
  step : Int
  /-- The number of empty lines that count as one. -/
  joined : Nat
  /-- Where numbers stand, and what fills the room before them. -/
  format : List Char
  /-- Whether the numbers go on in the next page. -/
  goesOn : Bool
  /-- What is between a number and its line. -/
  separator : List Char
  /-- The number of the first line. -/
  first : Int
  /-- The width of the numbers. -/
  width : Nat

/-- A number as it stands before its line. -/
def NumberForm.show (form : NumberForm) (number : Int) : List Char :=
  let digits := ofInt number
  match String.ofList form.format with
  | "ln" => padRight form.width digits
  | "rz" =>
      if number < 0 then '-' :: padLeft (form.width - 1) '0' (digits.drop 1)
      else padLeft form.width '0' digits
  | _ => padLeft form.width ' ' digits

/-- The lines of a text with their numbers. -/
def NumberForm.number (form : NumberForm) (lines : List (List Char)) : List Char :=
  let blank := List.replicate (form.width + form.separator.length) ' '
  let (shown, _) := lines.foldl
    (fun (state : List (List Char) × Int × NumberStyle × Nat) line =>
      let (shown, next, style, empty) := state
      let start := fun (style : NumberStyle) =>
        (['\n'] :: shown, if form.goesOn then next else form.first, style, 0)
      let double := form.delimiter ++ form.delimiter
      if !form.delimiter.isEmpty ∧ line = double ++ form.delimiter then
        start form.styles.2.1
      else if !form.delimiter.isEmpty ∧ line = double then
        (['\n'] :: shown, if form.goesOn then next else form.first, form.styles.1, 0)
      else if !form.delimiter.isEmpty ∧ line = form.delimiter then
        (['\n'] :: shown, next, form.styles.2.2, 0)
      else
        let empty := if line.isEmpty then empty + 1 else 0
        let isNumbered : Bool := match style with
          | .all => !line.isEmpty || form.joined ≤ 1 || empty % form.joined = 0
          | style => style.isNumbered line
        if isNumbered then
          ((form.show next ++ form.separator ++ line ++ ['\n']) :: shown, next + form.step,
            style, empty)
        else ((blank ++ line ++ ['\n']) :: shown, next, style, empty))
    ([], form.first, form.styles.1, 0)
  shown.reverse.flatten

/-- Numbers the lines of files. -/
def nl : Tool :=
  withOptions ["b=body-numbering", "d=section-delimiter", "f=footer-numbering",
    "h=header-numbering", "i=line-increment", "l=join-blank-lines", "n=number-format",
    "p no-renumber", "s=number-separator", "v=starting-line-number", "w=number-width"]
    fun invocation options =>
      let style := fun letter default =>
        match options.value? letter with
        | none => some default
        | some text => NumberStyle.ofText? text
      let number := fun (letter : Char) (default : Int) =>
        ((options.value? letter).bind toInt?).getD default
      match style 'b' .filled, style 'h' .none, style 'f' .none with
      | some body, some header, some footer =>
          if (number 'w' 6) ≤ 0 ∨ (options.value? 'w').any fun text => (toInt? text).isNone then
            invocation.fail ("invalid line number field width: " ++
              curly ((options.value? 'w').getD [])) 1
          else
            let (contents, outcome) := invocation.readAll options.operands
            let delimiter := match options.value? 'd' with
              | none => ['\\', ':']
              | some [single] => [single, ':']
              | some text => text
            let form : NumberForm :=
              { styles := (body, header, footer)
                delimiter := delimiter
                step := number 'i' 1
                joined := (number 'l' 1).toNat
                format := (options.value? 'n').getD ['r', 'n']
                goesOn := options.has 'p'
                separator := (options.value? 's').getD ['\t']
                first := number 'v' 1
                width := (number 'w' 6).toNat }
            outcome.say (form.number (contents.flatMap fun entry => lines entry.2))
      | none, _, _ =>
          invocation.misused ("invalid body numbering style: " ++
            curly ((options.value? 'b').getD [])) 1
      | _, none, _ =>
          invocation.misused ("invalid header numbering style: " ++
            curly ((options.value? 'h').getD [])) 1
      | _, _, none =>
          invocation.misused ("invalid footer numbering style: " ++
            curly ((options.value? 'f').getD [])) 1

/-- The number of words of a text. -/
def wordCount (text : List Char) : Nat :=
  (text.foldl
    (fun (state : Nat × Bool) octet =>
      if " \t\n\r\x0b\x0c".toList.contains octet then (state.1, false)
      else if state.2 then state
      else (state.1 + 1, true))
    (0, false)).1

/-- The width of the widest line of a text. -/
def widest (text : List Char) : Nat :=
  let (most, last) := (characters text).foldl
    (fun (state : Nat × Nat) character =>
      let (most, width) := state
      match character with
      | '\n' | '\r' | '\x0c' => (max most width, 0)
      | '\t' => (most, width / 8 * 8 + 8)
      | character =>
          if character.toNat < 32 ∨ strayCode ≤ character.toNat then state
          else (most, width + Terminal.charWidth character))
    (0, 0)
  max most last

/-- Counts lines, words, characters and octets. -/
def wc : Tool :=
  withOptions ["c bytes", "m chars", "l lines", "w words", "L max-line-length"]
    fun invocation options =>
      let operands := if options.operands.isEmpty then [['-']] else options.operands
      let all := options.given.isEmpty
      let wants := fun letter : Char =>
        options.has letter || (all && letter != 'm' && letter != 'L')
      let counts := fun text : List Char =>
        (if wants 'l' then [text.count '\n'] else []) ++
          (if wants 'w' then [wordCount text] else []) ++
          (if wants 'm' then [((characters text).filter fun character =>
            character.toNat < strayCode).length] else []) ++
          (if wants 'c' then [text.length] else []) ++
          (if wants 'L' then [widest text] else [])
      let kinds := (counts []).length
      -- The width of a column is that of the number of octets of all files.
      let sizes := operands.map fun operand =>
        match invocation.read operand with
        | .error "Is a directory" => some (0, false)
        | .error _ => none
        | .ok text => some (text.length,
            if isInput operand then invocation.isFile else (device? operand).isNone)
      let width :=
        if operands.length = 1 ∧ kinds = 1 then 1
        else if sizes.head? = some none then 1
        else
          let known := sizes.filterMap id
          let total := ((known.filter Prod.snd).map Prod.fst).foldl (· + ·) 0
          max (if known.all Prod.snd then 1 else 7) (ofNat total).length
      let line := fun (name : List Char) (counts : List Nat) =>
        [' '].intercalate (counts.map fun count => padLeft width ' ' (ofNat count)) ++
          (if name.isEmpty then [] else ' ' :: name) ++ ['\n']
      let (outcome, sums) := operands.foldl
        (fun (result : Outcome × List Nat) operand =>
          let (outcome, sums) := result
          let name := if options.operands.isEmpty then [] else operand
          let add := fun found : List Nat =>
            (sums.zip found).map fun entry => entry.1 + entry.2
          match invocation.read operand with
          | .error "Is a directory" =>
              ((outcome.complain (invocation.complaint (ofText
                (titled operand ++ ": Is a directory"))) 1).say (line name (counts [])), sums)
          | .error message =>
              (outcome.complain (invocation.complaint (ofText (titled operand ++ ": " ++ message)))
                1, sums)
          | .ok text =>
              let text := if isInput operand then outcome.input else text
              let outcome := if isInput operand then { outcome with input := [] } else outcome
              (outcome.say (line name (counts text)), add (counts text)))
        (invocation.outcome, (counts []).map fun _ => 0)
      if 1 < operands.length then outcome.say (line "total".toList sums) else outcome

/-- Copies standard input to files and to standard output. -/
def tee : Tool :=
  withOptions ["a append", "i ignore-interrupts", "p"] fun invocation options =>
    let outcome := { invocation.outcome with input := [] }.say invocation.input
    options.operands.foldl
      (fun outcome path =>
        match invocation.store path invocation.input (options.has 'a') outcome with
        | .ok outcome => outcome
        | .error message =>
            outcome.complain (invocation.complaint (ofText (titled path ++ ": " ++ message))) 1)
      outcome

end Display
end Shell
end Snippets
