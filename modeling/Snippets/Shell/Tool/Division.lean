import Snippets.Shell.Regex
import Snippets.Shell.Tool.Display
import Snippets.Shell.Tool.Options
import Snippets.Shell.Tool.Print

/-!
# Dividing files

A file is divided into files of so many lines or octets, or at lines that a pattern finds,
or a part of it is copied in blocks.
-/

namespace Snippets
namespace Shell
namespace Division

/-- The signs of the endings of names. -/
inductive Alphabet where
  /-- Letters. -/
  | letters
  /-- Decimal digits. -/
  | decimal
  /-- Hexadecimal digits. -/
  | hexadecimal
  deriving DecidableEq

/-- The signs of an alphabet. -/
def Alphabet.signs : Alphabet → List Char
  | letters => "abcdefghijklmnopqrstuvwxyz".toList
  | decimal => "0123456789".toList
  | hexadecimal => "0123456789abcdef".toList

/-- The signs of a number, in so many places. -/
def placesOf (signs : List Char) : Nat → Nat → List Char
  | 0, _ => []
  | width + 1, number =>
      placesOf signs width (number / signs.length) ++
        [signs[number % signs.length]?.getD 'a']

/-- The ending of the name of a piece.  Where the width may grow, the names of those with more
signs start with the last sign. -/
def ending (alphabet : Alphabet) (grows : Bool) : Nat → Nat → Nat → Option (List Char)
  | 0, _, _ => none
  | fuel + 1, width, number =>
      let signs := alphabet.signs
      let count := signs.length
      let last := signs.getLast?.getD 'z'
      if grows then
        let room := (count - 1) * Nat.pow count (width - 1)
        if number < room then some (placesOf signs width number)
        else (ending alphabet grows fuel width (number - room)).map (last :: ·)
      else if number < Nat.pow count width then some (placesOf signs width number)
      else none

/-- A text in pieces of so many octets. -/
def byOctets (size : Nat) : Nat → List Char → List (List Char)
  | 0, _ => []
  | _, [] => []
  | fuel + 1, text => text.take size :: byOctets size fuel (text.drop size)

/-- The records of a text, each with the mark at its end. -/
def records (mark : Char) (text : List Char) : List (List Char) :=
  let rec go : List Char → List (List Char) → List Char → List (List Char)
    | current, found, [] =>
        (if current.isEmpty then found else current.reverse :: found).reverse
    | current, found, octet :: rest =>
        if octet = mark then go [] ((octet :: current).reverse :: found) rest
        else go (octet :: current) found rest
  go [] [] text

/-- Lists in groups of so many. -/
def grouped (size : Nat) : Nat → List (List Char) → List (List Char)
  | 0, _ => []
  | _, [] => []
  | fuel + 1, lines => (lines.take size).flatten :: grouped size fuel (lines.drop size)

/-- Records in pieces of at most so many octets.  A longer record is divided. -/
def byRecords (size : Nat) (lines : List (List Char)) : List (List Char) :=
  let (current, found) := lines.foldl
    (fun (state : List Char × List (List Char)) line =>
      let (current, found) := state
      if current.length + line.length ≤ size then (current ++ line, found)
      else
        let found := if current.isEmpty then found else current :: found
        let pieces := byOctets size (line.length + 1) line
        (pieces.getLast?.getD [], (pieces.dropLast.reverse) ++ found))
    ([], [])
  (if current.isEmpty then found else current :: found).reverse

/-- A text in so many pieces of the same size, the last of which may be longer. -/
def inChunks (count : Nat) (text : List Char) : List (List Char) :=
  let size := text.length / count
  let extra := text.length % count
  (List.range count).map fun index : Nat =>
    let start := index * size + min index extra
    (text.drop start).take (size + if index < extra then 1 else 0)

/-- Records in so many pieces: each goes into the piece in which it starts. -/
def recordChunks (count : Nat) (lines : List (List Char)) : List (List Char) :=
  let total := lines.foldl (fun total line => total + line.length) 0
  let size := total / count
  let extra := total % count
  let stop := fun index : Nat => (index + 1) * size + min (index + 1) extra
  let (_, placed) := lines.foldl
    (fun (state : Nat × List (Nat × List Char)) line =>
      let (start, placed) := state
      let index := ((List.range count).find? fun index : Nat =>
        start < stop index).getD (count - 1)
      (start + line.length, (index, line) :: placed))
    (0, [])
  let placed := placed.reverse
  (List.range count).map fun index : Nat =>
    (placed.filter fun entry => entry.1 = index).flatMap Prod.snd

/-- Records in so many pieces by turns. -/
def inTurns (count : Nat) (lines : List (List Char)) : List (List Char) :=
  (List.range count).map fun index : Nat =>
    (lines.zipIdx.filter fun entry => entry.2 % count = index).flatMap Prod.fst

/-- How a file is divided. -/
inductive Plan where
  /-- Into pieces of so many lines. -/
  | lines (count : Nat)
  /-- Into pieces of so many octets. -/
  | octets (size : Nat)
  /-- Into pieces of whole lines of so many octets. -/
  | lineOctets (size : Nat)
  /-- Into so many pieces in the way of a letter, or into one of them. -/
  | chunks (kind : Char) (only : Option Nat) (count : Nat)

/-- The plan that a text for a number of pieces stands for. -/
def chunksOf? (text : List Char) : Option Plan :=
  let (kind, rest) := match text with
    | 'l' :: '/' :: rest => ('l', rest)
    | 'r' :: '/' :: rest => ('r', rest)
    | rest => ('b', rest)
  match splitAt '/' rest with
  | [count] =>
      match toNat? count with
      | some (count + 1) => some (.chunks kind none (count + 1))
      | _ => none
  | [only, count] =>
      match toNat? only, toNat? count with
      | some (only + 1), some (count + 1) =>
          if only ≤ count then some (.chunks kind (some only) (count + 1)) else none
      | _, _ => none
  | _ => none

/-- The plan that options stand for, or what is wrong with them. -/
def planOf (options : Options) : Except (String ⊕ String) Plan :=
  let given := options.given.filter fun entry => ['l', 'b', 'C', 'n'].contains entry.1
  let positive := fun (words : String) (text : List Char) =>
    match Size.ofText? text with
    | some (size + 1) => (.ok (size + 1) : Except (String ⊕ String) Nat)
    | _ => .error (.inl ("invalid number of " ++ words ++ ": " ++ curly text))
  match given with
  | [] => .ok (.lines 1000)
  | [(letter, text)] =>
      match letter with
      | 'l' => (positive "lines" text).map Plan.lines
      | 'b' => (positive "bytes" text).map Plan.octets
      | 'C' => (positive "lines" text).map Plan.lineOctets
      | _ =>
          match chunksOf? text with
          | some plan => .ok plan
          | none => .error (.inl ("invalid number of chunks: " ++ curly text))
  | _ => .error (.inr "cannot split in more than one way")

/-- The pieces of a text. -/
def Plan.pieces (plan : Plan) (mark : Char) (text : List Char) : List (List Char) :=
  let lines := records mark text
  match plan with
  | .lines count => grouped count (lines.length + 1) lines
  | .octets size => byOctets size (text.length + 1) text
  | .lineOctets size => byRecords size lines
  | .chunks 'l' _ count => recordChunks count lines
  | .chunks 'r' _ count => inTurns count lines
  | .chunks _ _ count => inChunks count text

/-- Puts pieces into files, whose names are made by a function. -/
def storeAll (invocation : Invocation) (nameOf : Nat → Option (List Char))
    (onNone : Outcome → Outcome) (told : List Char → Outcome → Outcome)
    (pieces : List (List Char)) (outcome : Outcome) : Outcome :=
  (pieces.zipIdx.foldl
    (fun (state : Outcome × Bool) (piece, index) =>
      let (outcome, isOver) := state
      if isOver then state
      else
        match nameOf index with
        | none => (onNone outcome, true)
        | some name =>
            let outcome := told name outcome
            match invocation.store name piece false outcome with
            | .ok outcome => (outcome, false)
            | .error message =>
                (outcome.complain (invocation.complaint (ofText (titled name ++ ": " ++ message)))
                  1, true))
    (outcome, false)).1

/-- Divides a file into files. -/
def split : Tool := fun invocation =>
  let arguments := invocation.arguments.flatMap fun argument =>
    match argument with
    | '-' :: digits =>
        if digits ≠ [] ∧ digits.all Char.isDigit then ["-l".toList, digits] else [argument]
    | _ => [argument]
  invocation.withOptions ["a=suffix-length", "A:additional-suffix", "b=bytes", "C=line-bytes",
      "d ", "D!numeric-suffixes", "x ", "X!hex-suffixes", "e elide-empty-files", "f:filter",
      "l=lines", "n=number", "t=separator", "u unbuffered", "v-verbose"] true 1 arguments
    fun options =>
      match planOf options with
      | .error (.inl message) => invocation.fail message 1
      | .error (.inr message) => invocation.misused message 1
      | .ok plan =>
          match (options.value? 'a').map toNat? with
          | some none =>
              invocation.fail ("invalid suffix length: " ++
                curly ((options.value? 'a').getD [])) 1
          | width =>
              invocation.extra 2 options <|
                let source := options.operands.head?.getD ['-']
                let start := options.operands[1]?.getD ['x']
                match invocation.read source with
                | .error message =>
                    invocation.fail ("cannot open " ++ straight source ++ " for reading: " ++
                      message) 1
                | .ok text =>
                    let outcome := if isInput source then
                        { invocation.outcome with input := [] } else invocation.outcome
                    let mark := match options.value? 't' with
                      | some ['\\', '0'] => '\x00'
                      | some (mark :: _) => mark
                      | _ => '\n'
                    let pieces := plan.pieces mark text
                    let pieces := if options.has 'e' then
                        pieces.filter fun piece => !piece.isEmpty else pieces
                    match plan with
                    | .chunks _ (some only) _ => outcome.say (pieces[only]?.getD [])
                    | _ =>
                        let alphabet := match options.last? "dDxX" with
                          | some 'd' => Alphabet.decimal
                          | some 'D' => .decimal
                          | some _ => .hexadecimal
                          | none => .letters
                        let first := match options.last? "DX" with
                          | some letter =>
                              let digits := (options.value? letter).getD []
                              digits.foldl
                                (fun value digit => value * alphabet.signs.length +
                                  (alphabet.signs.idxOf? digit).getD 0) 0
                          | none => 0
                        let isFixed := match width with
                          | some (some (_ + 1)) => true
                          | _ => false
                        let width := match width with
                          | some (some (width + 1)) => width + 1
                          | _ =>
                              match plan with
                              | .chunks _ _ count =>
                                  max 2 (((List.range 10).find? fun places : Nat =>
                                    count ≤ Nat.pow alphabet.signs.length places).getD 2)
                              | _ => 2
                        let extra := (options.value? 'A').getD []
                        let nameOf := fun index : Nat =>
                          (ending alphabet (!isFixed && first = 0) 20 width
                            (index + first)).map fun ending => start ++ ending ++ extra
                        storeAll invocation nameOf
                          (fun outcome => outcome.complain
                            (invocation.complaint "output file suffixes exhausted".toList) 1)
                          (fun name outcome =>
                            if options.has 'v' then
                              outcome.say (ofText ("creating file " ++ straight name ++ "\n"))
                            else outcome)
                          pieces outcome

/-- Where a file is divided. -/
inductive Cut where
  /-- Before a line. -/
  | line (number : Nat)
  /-- Before a line that an expression finds, or so many lines after it.  What is before it may
  be left out. -/
  | found (expression : Expression) (offset : Int) (isLeftOut : Bool)

/-- A cut, as it is written, and how often it is repeated; none stands for as often as there are
lines. -/
structure Step where
  /-- The cut. -/
  cut : Cut
  /-- The cut as it is written. -/
  text : List Char
  /-- How often it is repeated. -/
  repeats : Option Nat

/-- The steps that arguments stand for, or the words for what is wrong with them. -/
def stepsOf : List (List Char) → Except String (List Step)
  | [] => .ok []
  | text :: rest =>
      let cut : Except String Cut :=
        match text with
        | sign :: body =>
            if sign = '/' ∨ sign = '%' then
              match (body.reverse.dropWhile (· != sign)).drop 1, body.contains sign with
              | reversed, true =>
                  let pattern := reversed.reverse
                  let offset := body.drop (pattern.length + 1)
                  match Expression.ofText (.lenient false) pattern,
                      if offset.isEmpty then some 0 else toInt? offset with
                  | .ok expression, some offset =>
                      .ok (.found expression offset (sign = '%'))
                  | .ok _, none =>
                      .error (toText text ++ ": integer expected after delimiter")
                  | .error _, _ => .error (toText text ++ ": invalid regular expression")
              | _, false =>
                  .error (toText text ++ ": closing delimiter '" ++ toText [sign] ++
                    "' missing")
            else
              match toNat? text with
              | some 0 => .error (toText text ++ ": line number must be greater than zero")
              | some number => .ok (.line number)
              | none => .error (curly text ++ ": invalid pattern")
        | [] => .error (curly text ++ ": invalid pattern")
      match cut, rest with
      | .error message, _ => .error message
      | .ok cut, ('\x7b' :: inner) :: more =>
          let count := inner.takeWhile (· != '\x7d')
          if count = ['*'] then
            (stepsOf more).map fun steps => ⟨cut, text, none⟩ :: steps
          else
            match toNat? count with
            | some count =>
                (stepsOf more).map fun steps => ⟨cut, text, some count⟩ :: steps
            | none =>
                .error (curly ('\x7b' :: inner) ++
                  ": integer required between '\x7b' and '\x7d'")
      | .ok cut, rest => (stepsOf rest).map fun steps => ⟨cut, text, some 0⟩ :: steps

/-- The pieces of lines so far, and what is left. -/
structure Cutting where
  /-- The pieces, the latest first. -/
  pieces : List (List (List Char))
  /-- The lines that are left. -/
  rest : List (List Char)
  /-- The number of the first of these. -/
  line : Nat
  /-- What is wrong. -/
  trouble : Option String

/-- Makes one cut.  A turn is the number of cuts of the same kind before it. -/
def Cutting.step (step : Step) (suppresses : Bool) (turn : Nat) (cutting : Cutting) : Cutting :=
  let after := fun lines : List (List Char) => if suppresses then lines.drop 1 else lines
  match step.cut with
  | .line number =>
      let wanted := number * (turn + 1)
      let repetition := if turn = 0 then "" else " on repetition " ++ toString turn
      let last := cutting.line + cutting.rest.length
      if last ≤ wanted then
        { cutting with
          pieces := cutting.rest :: cutting.pieces, rest := []
          trouble := some (curly step.text ++ ": line number out of range" ++ repetition) }
      else
        let count := wanted - cutting.line
        { cutting with
          pieces := cutting.rest.take count :: cutting.pieces
          rest := after (cutting.rest.drop count)
          line := cutting.line + count + if suppresses then 1 else 0 }
  | .found expression offset isLeftOut =>
      -- The line at which the last cut was made is not looked at again.
      let start := if cutting.pieces.isEmpty ∧ cutting.line = 1 then 0 else
        if turn = 0 ∧ cutting.line = 1 then 0 else 1
      let isFound := fun line : List Char =>
        let text := if line.getLast? = some '\n' then line.dropLast else line
        (expression.find (characters text)).isSome
      match (cutting.rest.drop start).findIdx? isFound with
      | none =>
          let repetition := if turn = 0 then "" else " on repetition " ++ toString turn
          { cutting with
            pieces := if isLeftOut then cutting.pieces else cutting.rest :: cutting.pieces
            rest := []
            trouble := some (curly step.text ++ ": match not found" ++ repetition) }
      | some place =>
          let wanted : Int := (place + start : Nat) + offset
          if wanted < 0 ∨ (cutting.rest.length : Int) < wanted then
            { cutting with
              pieces := cutting.rest :: cutting.pieces, rest := []
              trouble := some (curly step.text ++ ": line number out of range") }
          else
            let count := wanted.toNat
            { cutting with
              pieces := if isLeftOut then cutting.pieces
                else cutting.rest.take count :: cutting.pieces
              rest := after (cutting.rest.drop count)
              line := cutting.line + count + if suppresses then 1 else 0 }

/-- Makes one cut as often as it is repeated. -/
def Cutting.repeated (step : Step) (suppresses : Bool) : Nat → Nat → Cutting → Cutting
  | 0, _, cutting => cutting
  | fuel + 1, turn, cutting =>
      let goesOn := match step.repeats with
        | some count => turn ≤ count
        | none => true
      if !goesOn ∨ cutting.trouble.isSome then cutting
      else
        let next := cutting.step step suppresses turn
        match step.repeats, next.trouble with
        | none, some _ => cutting
        | _, _ => Cutting.repeated step suppresses fuel (turn + 1) next

/-- Divides a file at lines that are named. -/
def csplit : Tool :=
  withOptions ["b=suffix-format", "f=prefix", "k keep-files", "n=digits", "q quiet", "s silent",
      "z elide-empty-files", "M-suppress-matched"] fun invocation options =>
    match options.operands with
    | [] => invocation.misused "missing operand" 1
    | [source] => invocation.misused ("missing operand after " ++ curly source) 1
    | source :: patterns =>
        match stepsOf patterns with
        | .error message => invocation.fail message 1
        | .ok steps =>
            match invocation.read source with
            | .error message =>
                invocation.fail ("cannot open " ++ straight source ++ " for reading: " ++
                  message) 1
            | .ok text =>
                let outcome := if isInput source then
                    { invocation.outcome with input := [] } else invocation.outcome
                let lines := records '\n' text
                let suppresses := options.has 'M'
                let fuel := lines.length + 2
                let cutting := steps.foldl
                  (fun cutting step => Cutting.repeated step suppresses
                    (fuel + step.repeats.getD 0) 0 cutting)
                  (⟨[], lines, 1, none⟩ : Cutting)
                let pieces := match cutting.trouble with
                  | some _ => cutting.pieces.reverse
                  | none => (cutting.rest :: cutting.pieces).reverse
                let pieces := pieces.map List.flatten
                let pieces := if options.has 'z' then
                    pieces.filter fun piece => !piece.isEmpty else pieces
                let start := (options.value? 'f').getD "xx".toList
                let width := ((options.value? 'n').bind toNat?).getD 2
                let nameOf := fun index : Nat =>
                  match options.value? 'b' with
                  | some format =>
                      some (start ++ (Print.printf
                        ⟨.program, 0, 0, Zone.universal⟩ format [ofNat index]).text)
                  | none => some (start ++ padLeft width '0' (ofNat index))
                let sizes := if options.has 'q' ∨ options.has 's' then []
                  else pieces.flatMap fun piece => ofNat piece.length ++ ['\n']
                match cutting.trouble with
                | some message =>
                    -- The sizes are printed first, and the files stay only if they are wanted.
                    let outcome := outcome.complain
                      (invocation.complaint (ofText message)) 1
                    let outcome := outcome.say sizes
                    if options.has 'k' then
                      storeAll invocation nameOf id (fun _ outcome => outcome) pieces outcome
                    else outcome
                | none =>
                    storeAll invocation nameOf id (fun _ outcome => outcome) pieces
                      (outcome.say sizes)

/-- The operands of a copy in blocks, and their values. -/
def operandsOf (arguments : List (List Char)) : List (String × List Char) :=
  arguments.map fun argument =>
    let name := argument.takeWhile (· != '=')
    (String.ofList name, argument.drop (name.length + 1))

/-- A number of octets, or of blocks: factors with a sign for multiplication between them. -/
def amount? (text : List Char) : Option (Nat × Bool) :=
  let factors := (splitAt 'x' text).map Size.ofText?
  let isCounted := text.getLast? = some 'B' && !(text.dropLast.getLast?.any Char.isAlpha)
  if text.isEmpty then none
  else
    (factors.foldl (fun (total : Option Nat) factor =>
      total.bind fun total => factor.map (total * ·)) (some 1)).map (·, isCounted)

/-- Every two octets exchanged. -/
def swapped : List Char → List Char
  | first :: second :: rest => second :: first :: swapped rest
  | rest => rest

/-- Copies a part of a file in blocks. -/
def dd : Tool := fun invocation =>
  let arguments := invocation.arguments
  if arguments.any fun argument => argument = "--help".toList || argument = "--version".toList then
    invocation.withOptions [] true 1 arguments fun _ => invocation.outcome
  else
    let operands := operandsOf arguments
    let names := ["if", "of", "bs", "ibs", "obs", "cbs", "count", "skip", "seek", "conv", "iflag",
      "oflag", "status", "iseek", "oseek"]
    let value? := fun name : String =>
      (operands.reverse.find? fun entry => entry.1 = name).map Prod.snd
    let unknown := arguments.find? fun argument =>
      !argument.contains '=' || !names.contains
        (String.ofList (argument.takeWhile (· != '=')))
    let numbers := ["bs", "ibs", "obs", "cbs", "count", "skip", "seek", "iseek", "oseek"]
    let wrong := operands.find? fun entry =>
      numbers.contains entry.1 && (match amount? entry.2 with
        | none => true
        | some (0, _) => ["bs", "ibs", "obs", "cbs"].contains entry.1
        | some _ => false)
    let list := fun name : String => (splitAt ',' ((value? name).getD [])).map String.ofList
    let conversions := ["ascii", "ebcdic", "ibm", "block", "unblock", "lcase", "ucase", "sparse",
      "swab", "sync", "excl", "nocreat", "notrunc", "noerror", "fdatasync", "fsync", ""]
    let wrongConversion := (list "conv").find? fun word => !conversions.contains word
    let status := String.ofList ((value? "status").getD "progress".toList)
    match unknown, wrong, wrongConversion with
    | some argument, _, _ =>
        invocation.misused ("unrecognized operand " ++ straight argument) 1
    | none, some (_, text), _ => invocation.fail ("invalid number: " ++ straight text) 1
    | none, none, some word =>
        invocation.misused ("invalid conversion: " ++ curly word.toList) 1
    | none, none, none =>
        if !(["none", "noxfer", "progress"].contains status) then
          invocation.misused ("invalid status level: " ++ curly status.toList) 1
        else
          let number := fun (names : List String) (usual : Nat) =>
            ((names.findSome? value?).bind amount?).getD (usual, false)
          let conv := list "conv"
          let inSize := (number ["bs", "ibs"] 512).1
          let outSize := (number ["bs", "obs"] 512).1
          let source := (value? "if").getD "/dev/stdin".toList
          let whole : Except String (List Char) :=
            match value? "if" with
            | none => .ok invocation.input
            | some path =>
                match device? path, (number ["count"] 0) with
                | some .zero, (count, isCounted) =>
                    .ok (List.replicate (if (value? "count").isNone then endless
                      else if isCounted then count else count * inSize) '\x00')
                | _, _ => invocation.read path
          match whole with
          | .error message =>
              invocation.fail ("failed to open " ++ straight source ++ ": " ++ message) 1
          | .ok whole =>
              let (skip, skipCounted) := number ["skip", "iseek"] 0
              let skip := if skipCounted ∨ (list "iflag").contains "skip_bytes" then skip
                else skip * inSize
              let (count, countCounted) := number ["count"] 0
              let isCounted := countCounted || (list "iflag").contains "count_bytes"
              let rest := whole.drop skip
              let taken := if (value? "count").isNone then rest
                else rest.take (if isCounted then count else count * inSize)
              let fullIn := taken.length / inSize
              let partIn := if taken.length % inSize = 0 then 0 else 1
              let block := (number ["cbs"] 0).1
              let changed := if conv.contains "sync" ∧ taken.length % inSize ≠ 0 then
                  taken ++ List.replicate (inSize - taken.length % inSize)
                    (if conv.contains "block" ∨ conv.contains "unblock" then ' ' else '\x00')
                else taken
              let changed := if conv.contains "swab" then swapped changed else changed
              let changed := if conv.contains "lcase" then changed.map Char.toLower
                else if conv.contains "ucase" then changed.map Char.toUpper else changed
              let changed :=
                if conv.contains "block" ∧ 0 < block then
                  (lines changed).flatMap fun line => (padRight block line).take block
                else if conv.contains "unblock" ∧ 0 < block then
                  (byOctets block (changed.length + 1) changed).flatMap fun record =>
                    (record.reverse.dropWhile (· = ' ')).reverse ++ ['\n']
                else changed
              let outcome := if (value? "if").isNone ∨ isInput source then
                  { invocation.outcome with
                    input := invocation.input.drop (skip + taken.length) }
                else invocation.outcome
              let (seek, seekCounted) := number ["seek", "oseek"] 0
              let seek := if seekCounted ∨ (list "oflag").contains "seek_bytes" then seek
                else seek * outSize
              let stored : Except String Outcome :=
                match value? "of" with
                | none => .ok (outcome.say changed)
                | some path =>
                    if (device? path).isSome then invocation.store path changed false outcome
                    else
                      let before : Option (List Char) := match invocation.read path with
                        | .ok text => some text
                        | .error _ => none
                      if conv.contains "excl" ∧ before.isSome then .error "File exists"
                      else if conv.contains "nocreat" ∧ before.isNone then
                        .error (lookupMessage .missing)
                      else
                        let before := before.getD []
                        let appends := (list "oflag").contains "append"
                        let kept := if conv.contains "notrunc" ∨ appends then before
                          else before.take seek
                        let seek := if appends then kept.length else seek
                        let text := kept.take seek ++ List.replicate (seek - kept.length) '\x00' ++
                          changed ++ kept.drop (seek + changed.length)
                        invocation.store path text false outcome
              match stored with
              | .error message =>
                  invocation.fail ("failed to open " ++
                    straight ((value? "of").getD []) ++ ": " ++ message) 1
              | .ok outcome =>
                  let fullOut := changed.length / outSize
                  let partOut := if changed.length % outSize = 0 then 0 else 1
                  -- One size for both means that blocks are written as they are read.
                  let (fullOut, partOut) := if (value? "bs").isSome ∧ changed.length = taken.length
                    then (fullIn, partIn) else (fullOut, partOut)
                  let shown := fun full part : Nat => ofNat full ++ '+' :: ofNat part
                  let tooFar := whole.length < skip ∧ (value? "if").isSome
                  let outcome := if tooFar then
                      outcome.write 2 (invocation.complaint
                        (source ++ ": cannot skip to specified offset".toList))
                    else outcome
                  if status = "none" then outcome
                  else
                    let outcome := outcome.write 2
                      (shown fullIn partIn ++ " records in\n".toList ++ shown fullOut partOut ++
                        " records out\n".toList)
                    if status = "noxfer" then outcome
                    else
                      outcome.write 2 (ofNat changed.length ++
                        (if changed.length = 1 then " byte" else " bytes").toList ++
                        " copied, 0.001 s, ".toList ++ ofNat changed.length ++ " kB/s\n".toList)

end Division
end Shell
end Snippets
