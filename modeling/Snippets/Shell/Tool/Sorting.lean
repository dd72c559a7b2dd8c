import Snippets.Shell.Tool.Display

/-!
# Ordering lines

Lines are ordered by keys, which are parts of them.  A key is compared as a text, as a
number of one kind or another, as the name of a month, or as a version.
-/

namespace Snippets
namespace Shell
namespace Sorting

/-- How two keys are compared. -/
inductive Measure where
  /-- As texts. -/
  | text
  /-- As decimal numbers. -/
  | number
  /-- As numbers that may have an exponent. -/
  | general
  /-- As numbers with a letter for the unit. -/
  | human
  /-- As names of months. -/
  | month
  /-- As versions. -/
  | version
  deriving DecidableEq, Repr

/-- How keys are compared, and what is done with them before. -/
structure Style where
  /-- How they are compared. -/
  measure : Measure
  /-- Whether capitals and small letters are the same. -/
  folds : Bool
  /-- Whether only letters, digits and blanks count. -/
  isDictionary : Bool
  /-- Whether characters that cannot be shown do not count. -/
  isVisible : Bool
  /-- Whether the order is turned round. -/
  reversed : Bool
  /-- Whether blanks at the start do not count. -/
  trimsStart : Bool
  /-- Whether blanks before the end of a key do not count. -/
  trimsEnd : Bool
  deriving DecidableEq, Repr

/-- The style in which texts are compared as they are. -/
def plainStyle : Style := ⟨.text, false, false, false, false, false, false⟩

/-- A style to which a letter has been added, if it names one. -/
def Style.add? (letter : Char) (atEnd : Bool) (style : Style) : Option Style :=
  match letter with
  | 'b' => some (if atEnd then { style with trimsEnd := true }
      else { style with trimsStart := true })
  | 'd' => some { style with isDictionary := true }
  | 'f' => some { style with folds := true }
  | 'g' => some { style with measure := .general }
  | 'h' => some { style with measure := .human }
  | 'i' => some { style with isVisible := true }
  | 'M' => some { style with measure := .month }
  | 'n' => some { style with measure := .number }
  | 'R' => some style
  | 'r' => some { style with reversed := true }
  | 'V' => some { style with measure := .version }
  | _ => none

/-- A part of a line by which it is ordered. -/
structure Key where
  /-- The number of fields before it. -/
  startField : Nat
  /-- The number of characters of its first field before it. -/
  startCharacter : Nat
  /-- The number of fields before the one in which it ends, if it ends before the line. -/
  endField : Option Nat
  /-- The number of characters of its last field, zero if all of them belong to it. -/
  endCharacter : Nat
  /-- How it is compared. -/
  style : Style

/-- Whether an octet separates fields where no character is given for that. -/
def isBlank (octet : Char) : Bool :=
  octet = ' ' || octet = '\t' || octet = '\n'

/-- The length of a number of fields at the start of a text. -/
def fieldsLength (separator : Option Char) : Nat → List Char → Nat
  | 0, _ => 0
  | count + 1, text =>
      match separator with
      | some mark =>
          let field := (text.takeWhile (· != mark)).length
          if field = text.length then field
          else field + 1 + fieldsLength separator count (text.drop (field + 1))
      | none =>
          let blank := (text.takeWhile isBlank).length
          let field := ((text.drop blank).takeWhile fun octet => !isBlank octet).length
          if blank + field = 0 then 0
          else blank + field + fieldsLength separator count (text.drop (blank + field))

/-- Where a key starts in a line. -/
def Key.start (separator : Option Char) (key : Key) (line : List Char) : Nat :=
  let before := fieldsLength separator key.startField line
  let blank := if key.style.trimsStart then ((line.drop before).takeWhile isBlank).length else 0
  min line.length (before + blank + key.startCharacter)

/-- Where a key ends in a line. -/
def Key.stop (separator : Option Char) (key : Key) (line : List Char) : Nat :=
  match key.endField with
  | none => line.length
  | some field =>
      if key.endCharacter = 0 then
        let before := fieldsLength separator (field + 1) line
        match separator with
        | some mark =>
            -- The separator after the last field does not belong to the key.
            let fields := fieldsLength separator field line
            min before (fields + ((line.drop fields).takeWhile (· != mark)).length)
        | none => before
      else
        let before := fieldsLength separator field line
        let blank := if key.style.trimsEnd then ((line.drop before).takeWhile isBlank).length
          else 0
        min line.length (before + blank + key.endCharacter)

/-- The octets of a key. -/
def Key.part (separator : Option Char) (key : Key) (line : List Char) : List Char :=
  let start := key.start separator line
  (line.drop start).take (key.stop separator line - start)

/-- The order of texts by their octets. -/
def compareTexts : List Char → List Char → Ordering
  | [], [] => .eq
  | [], _ => .lt
  | _, [] => .gt
  | first :: rest, second :: more =>
      if first.toNat < second.toNat then .lt
      else if second.toNat < first.toNat then .gt
      else compareTexts rest more

/-- A decimal number: whether it is negative, its digits before the point without zeros at
their start, and those after it without zeros at their end. -/
structure Decimal where
  /-- Whether it is negative. -/
  isNegative : Bool
  /-- The digits before the point. -/
  whole : List Char
  /-- The digits after the point. -/
  places : List Char

/-- The decimal number at the start of a text, and what follows it. -/
def Decimal.ofText (text : List Char) : Decimal × List Char :=
  let text := text.dropWhile isBlank
  let isNegative := text.head? = some '-'
  let text := if isNegative then text.drop 1 else text
  let whole := text.takeWhile Char.isDigit
  let rest := text.drop whole.length
  let places := if rest.head? = some '.' then (rest.drop 1).takeWhile Char.isDigit else []
  let rest := if rest.head? = some '.' then (rest.drop 1).drop places.length else rest
  let whole := whole.dropWhile (· = '0')
  let places := (places.reverse.dropWhile (· = '0')).reverse
  (⟨isNegative && !(whole.isEmpty && places.isEmpty), whole, places⟩, rest)

/-- The order of decimal numbers. -/
def Decimal.compare (first second : Decimal) : Ordering :=
  let size := (Ord.compare first.whole.length second.whole.length).then
    ((compareTexts first.whole second.whole).then (compareTexts first.places second.places))
  match first.isNegative, second.isNegative with
  | false, false => size
  | true, true => size.swap
  | true, false => .lt
  | false, true => .gt

/-- The rank of the letter of a unit. -/
def unitRank (letter : Char) : Nat :=
  match "KMGTPEZYRQ".toList.idxOf? letter with
  | some index => index + 1
  | none => if letter = 'k' then 1 else 0

/-- The order of numbers with a letter for the unit. -/
def compareHuman (first second : List Char) : Ordering :=
  let (x, xRest) := Decimal.ofText first
  let (y, yRest) := Decimal.ofText second
  let rank := fun (number : Decimal) (rest : List Char) =>
    let isZero := number.whole.isEmpty && number.places.isEmpty
    let rank : Int := if isZero then 0 else ((rest.head?.map unitRank).getD 0 : Nat)
    if number.isNegative then -rank else rank
  (Ord.compare (rank x xRest) (rank y yRest)).then (x.compare y)

/-- The number of a month, by the first three letters of its name. -/
def month (text : List Char) : Nat :=
  let names := ["JAN", "FEB", "MAR", "APR", "MAY", "JUN", "JUL", "AUG", "SEP", "OCT", "NOV", "DEC"]
  let start := ((text.dropWhile isBlank).take 3).map Char.toUpper
  ((names.idxOf? (String.ofList start)).map fun index => index + 1).getD 0

/-- A number that may have an exponent, as a decimal number without one. -/
structure General where
  /-- Whether it is a number at all. -/
  isNumber : Bool
  /-- Its sign and its digits. -/
  digits : Int
  /-- The power of ten that they are multiplied with. -/
  exponent : Int

/-- The number at the start of a text. -/
def General.ofText (text : List Char) : General :=
  let text := text.dropWhile isBlank
  let isNegative := text.head? = some '-'
  let text := if isNegative ∨ text.head? = some '+' then text.drop 1 else text
  let whole := text.takeWhile Char.isDigit
  let rest := text.drop whole.length
  let places := if rest.head? = some '.' then (rest.drop 1).takeWhile Char.isDigit else []
  let rest := if rest.head? = some '.' then (rest.drop 1).drop places.length else rest
  if whole.isEmpty ∧ places.isEmpty then ⟨false, 0, 0⟩
  else
    let exponent : Int := match rest with
      | letter :: rest =>
          if letter = 'e' ∨ letter = 'E' then
            let sign := rest.takeWhile fun octet => octet = '-' || octet = '+'
            (toInt? (sign ++ (rest.drop sign.length).takeWhile Char.isDigit)).getD 0
          else 0
      | [] => 0
    let digits : Int := ((toNat? (whole ++ places)).getD 0 : Nat)
    ⟨true, if isNegative then -digits else digits, exponent - (places.length : Int)⟩

/-- The order of numbers that may have an exponent.  What is no number comes first. -/
def General.compare (first second : General) : Ordering :=
  match first.isNumber, second.isNumber with
  | false, false => .eq
  | false, true => .lt
  | true, false => .gt
  | true, true =>
      let least := min first.exponent second.exponent
      let scaled := fun number : General =>
        number.digits * (Nat.pow 10 (min 5000 (number.exponent - least).toNat) : Nat)
      Ord.compare (scaled first) (scaled second)

/-- The rank of an octet in a version. -/
def versionRank (octet : Option Char) : Int :=
  match octet with
  | none => 0
  | some octet =>
      if octet.isDigit then 0
      else if octet.isAlpha then octet.toNat
      else if octet = '~' then -1
      else (octet.toNat : Int) + 256

/-- The order of the parts of two versions. -/
def compareParts : Nat → List Char → List Char → Ordering
  | 0, _, _ => .eq
  | fuel + 1, first, second =>
      if first.isEmpty ∧ second.isEmpty then .eq
      else
        let isOther := fun octet : Option Char => octet.any fun octet => !octet.isDigit
        if isOther first.head? ∨ isOther second.head? then
          match Ord.compare (versionRank first.head?) (versionRank second.head?) with
          | .eq => compareParts fuel (first.drop 1) (second.drop 1)
          | order => order
        else
          let x := first.takeWhile Char.isDigit
          let y := second.takeWhile Char.isDigit
          let trimmed := fun digits : List Char => digits.dropWhile (· = '0')
          match (Ord.compare (trimmed x).length (trimmed y).length).then
              (compareTexts (trimmed x) (trimmed y)) with
          | .eq => compareParts fuel (first.drop x.length) (second.drop y.length)
          | order => order

/-- The length of a version without the endings of a file. -/
def bareLength (text : List Char) : Nat :=
  let rec scan : Nat → Nat → Nat → List Char → Nat
    | 0, best, _, _ => best
    | fuel + 1, best, place, rest =>
        match rest with
        | [] => best
        | '.' :: letter :: more =>
            if place ≠ 0 ∧ (letter.isAlpha ∨ letter = '~') then
              let word := more.takeWhile fun octet => octet.isAlphanum || octet = '~'
              scan fuel best (place + 2 + word.length) (more.drop word.length)
            else scan fuel (place + 1) (place + 1) (letter :: more)
        | _ :: more => scan fuel (place + 1) (place + 1) more
  scan (text.length + 1) 0 0 text

/-- The order of versions. -/
def compareVersions (first second : List Char) : Ordering :=
  let fuel := 2 * (first.length + second.length) + 2
  let rank := fun text : List Char =>
    if text.isEmpty then 0
    else if text = ['.'] then 1
    else if text = ['.', '.'] then 2
    else if text.head? = some '.' then 3
    else 4
  (Ord.compare (rank first) (rank second)).then
    ((compareParts fuel (first.take (bareLength first)) (second.take (bareLength second))).then
      (compareParts fuel first second))

/-- The order of two keys. -/
def Style.compare (style : Style) (first second : List Char) : Ordering :=
  let order := match style.measure with
    | .number => (Decimal.ofText first).1.compare (Decimal.ofText second).1
    | .general => (General.ofText first).compare (General.ofText second)
    | .human => compareHuman first second
    | .month => Ord.compare (month first) (month second)
    | .version => compareVersions first second
    | .text =>
        let counts := fun octet : Char =>
          (!style.isDictionary || octet.isAlphanum || isBlank octet) &&
            (!style.isVisible || (32 ≤ octet.toNat && octet.toNat < 127))
        let change := fun text : List Char =>
          let kept := text.filter counts
          if style.folds then kept.map Char.toUpper else kept
        compareTexts (change first) (change second)
  if style.reversed then order.swap else order

/-- How lines are ordered. -/
structure Rule where
  /-- The keys, the most important one first. -/
  keys : List Key
  /-- The character between fields, if one is given. -/
  separator : Option Char
  /-- Whether lines with the same keys stay in their order. -/
  isStable : Bool
  /-- Whether the order of lines with the same keys is turned round. -/
  reversed : Bool

/-- The order of two lines by their keys. -/
def Rule.compareKeys (rule : Rule) (first second : List Char) : Ordering :=
  rule.keys.foldl
    (fun order key =>
      match order with
      | .eq => key.style.compare (key.part rule.separator first) (key.part rule.separator second)
      | order => order)
    .eq

/-- The order of two lines. -/
def Rule.compare (rule : Rule) (first second : List Char) : Ordering :=
  match rule.compareKeys first second with
  | .eq =>
      if rule.isStable then .eq
      else if rule.reversed then (compareTexts first second).swap
      else compareTexts first second
  | order => order

/-- Whether a line may come before another one. -/
def Rule.mayPrecede (rule : Rule) (first second : List Char) : Bool :=
  rule.compare first second != .gt

/-- Reads the letters of a style. -/
def styleOf? (atEnd : Bool) (style : Style) (letters : List Char) : Option Style :=
  letters.foldlM (fun style letter => style.add? letter atEnd) style

/-- Reads a key, or answers the words for what is wrong with it. -/
def key? (text : List Char) : Except String Key :=
  let wrong := fun (words : String) (rest : List Char) =>
    (.error (words ++ ": invalid count at start of " ++ curly rest) : Except String Key)
  let isLetter := fun octet : Char => octet.isAlpha
  let digits := text.takeWhile Char.isDigit
  let rest := text.drop digits.length
  match toNat? digits with
  | none => wrong "invalid number at field start" text
  | some 0 => .error ("field number is zero: invalid field specification " ++ curly text)
  | some (field + 1) =>
      let (places, rest) :=
        if rest.head? = some '.' then
          let digits := (rest.drop 1).takeWhile Char.isDigit
          (some digits, rest.drop (digits.length + 1))
        else (none, rest)
      match places.map toNat? with
      | some none => wrong "invalid number after '.'" (text.drop (digits.length + 1))
      | some (some 0) =>
          .error ("character offset is zero: invalid field specification " ++ curly text)
      | start =>
          let startCharacter := ((start.bind id).getD 1) - 1
          let letters := rest.takeWhile isLetter
          match styleOf? false plainStyle letters, rest.drop letters.length with
          | some style, [] => .ok ⟨field, startCharacter, none, 0, style⟩
          | some style, ',' :: rest =>
              let digits := rest.takeWhile Char.isDigit
              let more := rest.drop digits.length
              match toNat? digits with
              | none => wrong "invalid number after ','" rest
              | some 0 =>
                  .error ("field number is zero: invalid field specification " ++ curly text)
              | some (last + 1) =>
                  let (places, more) :=
                    if more.head? = some '.' then
                      let digits := (more.drop 1).takeWhile Char.isDigit
                      ((toNat? digits).getD 0, more.drop (digits.length + 1))
                    else (0, more)
                  match styleOf? true style more with
                  | some style => .ok ⟨field, startCharacter, some last, places, style⟩
                  | none => .error ("stray character in field spec: invalid field specification " ++
                      curly text)
          | _, _ => .error ("stray character in field spec: invalid field specification " ++
              curly text)

/-- The style of the options for all keys. -/
def globalStyle (options : Options) : Style :=
  options.given.foldl
    (fun style entry =>
      let letter := if entry.1 = 'W' then
          match String.ofList entry.2 with
          | "numeric" => 'n'
          | "general-numeric" => 'g'
          | "human-numeric" => 'h'
          | "month" => 'M'
          | "version" => 'V'
          | _ => ' '
        else entry.1
      (style.add? letter false).getD style)
    plainStyle

/-- The rule of the options. -/
def ruleOf (options : Options) : Except String Rule := do
  let global := globalStyle options
  let keys ← (options.valuesOf 'k').mapM key?
  let inherit := fun key : Key =>
    if key.style = { plainStyle with
        trimsStart := key.style.trimsStart, trimsEnd := key.style.trimsEnd } ∧
        ¬key.style.trimsStart ∧ ¬key.style.trimsEnd then
      { key with style := { global with trimsEnd := global.trimsStart } }
    else key
  let keys :=
    if keys.isEmpty then [⟨0, 0, none, 0, global⟩] else keys.map inherit
  let separator ← match options.value? 't' with
    | none => pure none
    | some ['\\', '0'] => pure (some '\x00')
    | some [single] => pure (some single)
    | some [] => .error "empty tab"
    | some text => .error ("multi-character tab " ++ curly text)
  return ⟨keys, separator, options.has 's' || options.has 'u', global.reversed⟩

/-- The first of two neighbours that are out of order, with its number. -/
def disorder? (rule : Rule) (strict : Bool) (lines : List (List Char)) :
    Option (Nat × List Char) :=
  ((lines.zip (lines.drop 1)).zipIdx 2).findSome? fun ((first, second), index) =>
    match rule.compare first second with
    | .gt => some (index, second)
    | .eq => if strict then some (index, second) else none
    | .lt => none

/-- Lines without those that follow one with the same keys. -/
def distinct (isSame : List Char → List Char → Bool) : List (List Char) → List (List Char)
  | [] => []
  | first :: rest =>
      let kept := rest.foldl
        (fun (state : List Char × List (List Char)) line =>
          if isSame state.1 line then state else (line, line :: state.2))
        (first, [first])
      kept.2.reverse

/-- The options for ordering. -/
def forms : List String :=
  ["b ignore-leading-blanks", "d dictionary-order", "f ignore-case", "g general-numeric-sort",
   "h human-numeric-sort", "i ignore-nonprinting", "M month-sort", "n numeric-sort",
   "R random-sort", "r reverse", "V version-sort", "c!check", "c", "C", "k=key", "m merge",
   "o=output", "s stable", "S=buffer-size", "t=field-separator", "T=temporary-directory",
   "u unique", "z zero-terminated", "W:sort", "P:parallel", "R:random-source"]

/-- Orders lines. -/
def sort : Tool := fun invocation =>
  invocation.withOptions forms true 2 invocation.arguments fun options =>
    match ruleOf options with
    | .error message => invocation.fail message 2
    | .ok rule =>
        let (contents, outcome) := invocation.readAllWith
          (fun path message => "cannot read: " ++ titled path ++ ": " ++ message) 2
          options.operands
        if outcome.status ≠ 0 then
          -- Nothing is printed if a file cannot be read, and only the first is named.
          { outcome with writes := (outcome.writes.reverse.take 1) }
        else
          let mark := markOf options
          let checks := options.has 'c' || options.has 'C'
          let texts := contents.map fun entry => bareRecords mark entry.2
          if checks then
            let name := ((contents.map Prod.fst).head?).getD ['-']
            match disorder? rule (options.has 'u') texts.flatten with
            | none => outcome
            | some (index, line) =>
                if options.has 'C' ∨ options.value? 'c' = some "quiet".toList ∨
                    options.value? 'c' = some "silent".toList then outcome.withStatus 1
                else
                  outcome.complain (invocation.complaint (name ++ ':' :: ofNat index ++
                    ": disorder: ".toList ++ line)) 1
          else
            let ordered :=
              if options.has 'm' then
                texts.foldl (fun merged lines => merged.merge lines rule.mayPrecede) []
              else texts.flatten.mergeSort rule.mayPrecede
            let kept :=
              if options.has 'u' then
                distinct (fun first second => rule.compare first second == .eq) ordered
              else ordered
            let text := withMarks mark kept
            match options.value? 'o' with
            | none => outcome.say text
            | some path =>
                match invocation.store path text false outcome with
                | .ok outcome => outcome
                | .error message =>
                    outcome.complain (invocation.complaint (ofText
                      ("open failed: " ++ titled path ++ ": " ++ message))) 2

/-- The part of a line that is compared. -/
def comparedPart (options : Options) (line : List Char) : List Char :=
  let number := fun letter : Char => ((options.value? letter).bind toNat?).getD 0
  let rest := line.drop (fieldsLength none (number 'f') line)
  let rest := (characters rest).drop (number 's')
  let rest := match (options.value? 'w').bind toNat? with
    | some count => rest.take count
    | none => rest
  if options.has 'i' then rest.map lowerCharacter else rest

/-- Lines with the same parts that follow each other. -/
def groups (part : List Char → List Char) (lines : List (List Char)) :
    List (List (List Char)) :=
  (lines.foldl
    (fun (found : List (List Char × List (List Char))) line =>
      let key := part line
      match found with
      | (last, group) :: rest =>
          if last = key then (last, line :: group) :: rest else (key, [line]) :: found
      | [] => [(key, [line])])
    []).reverse.map fun entry => entry.2.reverse

/-- Leaves out repeated lines. -/
def uniq : Tool :=
  withOptions ["c count", "d repeated", "D", "A!all-repeated", "f=skip-fields", "G!group",
    "i ignore-case", "s=skip-chars", "u unique", "w=check-chars", "z zero-terminated"]
    fun invocation options =>
      invocation.extra 2 options <|
      let wrong := [('f', "fields to skip"), ('s', "bytes to skip"),
        ('w', "bytes to compare")].find? fun entry =>
          (options.value? entry.1).any fun text => (toNat? text).isNone
      match wrong with
      | some (letter, words) =>
          invocation.fail (toText ((options.value? letter).getD []) ++ ": invalid number of " ++
            words) 1
      | none =>
          let (contents, outcome) := invocation.readAll (options.operands.take 1)
          if outcome.status ≠ 0 then outcome
          else
            let mark := markOf options
            let found := groups (comparedPart options)
              (contents.flatMap fun entry => bareRecords mark entry.2)
            let showsAll := options.has 'D' || options.has 'A'
            let method := ((options.value? 'A').orElse fun _ => options.value? 'G').getD []
            let shown :=
              if options.has 'G' then
                let method := if method.isEmpty then "separate".toList else method
                let between := if method = "both".toList ∨ method = "separate".toList ∨
                    method = "prepend".toList ∨ method = "append".toList then [mark] else []
                let body := match String.ofList method with
                  | "separate" => between.intercalate (found.map (withMarks mark))
                  | "append" => found.flatMap fun group => withMarks mark group ++ [mark]
                  | "prepend" => found.flatMap fun group => mark :: withMarks mark group
                  | _ => (if found.isEmpty then [] else [mark]) ++
                      found.flatMap fun group => withMarks mark group ++ [mark]
                body
              else if showsAll then
                let several := found.filter fun group => 1 < group.length
                match String.ofList method with
                | "separate" => [mark].intercalate (several.map (withMarks mark))
                | "prepend" => several.flatMap fun group => mark :: withMarks mark group
                | _ => several.flatMap (withMarks mark)
              else
                found.flatMap fun group =>
                  let isShown := (!options.has 'd' || 1 < group.length) &&
                    (!options.has 'u' || group.length = 1)
                  if isShown then
                    (if options.has 'c' then padLeft 7 ' ' (ofNat group.length) ++ [' '] else []) ++
                      (group.head?.getD []) ++ [mark]
                  else []
            match options.operands[1]? with
            | none | some ['-'] => outcome.say shown
            | some path =>
                match invocation.store path shown false outcome with
                | .ok outcome => outcome
                | .error message =>
                    let words := ofText (titled path ++ ": " ++ message)
                    outcome.complain (invocation.complaint words) 1

/-- A line that is in one of two files, or in both. -/
inductive Common where
  /-- It is in the first file only. -/
  | first (line : List Char)
  /-- It is in the second file only. -/
  | second (line : List Char)
  /-- It is in both files. -/
  | both (line : List Char)

/-- The lines of two files in ascending order. -/
def common : Nat → List (List Char) → List (List Char) → List Common
  | 0, _, _ => []
  | _, [], rest => rest.map .second
  | _, rest, [] => rest.map .first
  | fuel + 1, first :: rest, second :: more =>
      match compareTexts first second with
      | .eq => .both first :: common fuel rest more
      | .lt => .first first :: common fuel rest (second :: more)
      | .gt => .second second :: common fuel (first :: rest) more

/-- Compares two files in ascending order line by line. -/
def comm : Tool :=
  withOptions ["1", "2", "3", "c-check-order", "n-nocheck-order", "d:output-delimiter", "t-total",
    "z zero-terminated"] fun invocation options =>
      match options.operands with
      | [] => invocation.misused "missing operand" 1
      | [only] => invocation.misused ("missing operand after " ++ curly only) 1
      | [first, second] =>
          let (contents, outcome) := invocation.readAll [first, second]
          match contents with
          | [(_, x), (_, y)] =>
              let mark := markOf options
              let between := (options.value? 'd').getD ['\t']
              let linesOf := bareRecords mark
              let found := common ((linesOf x).length + (linesOf y).length + 1) (linesOf x)
                (linesOf y)
              let indent := fun shown : Bool => if shown then between else []
              let text := found.flatMap fun entry =>
                match entry with
                | .first line => if options.has '1' then [] else line ++ [mark]
                | .second line =>
                    if options.has '2' then [] else indent (!options.has '1') ++ line ++ [mark]
                | .both line =>
                    if options.has '3' then []
                    else
                      indent (!options.has '1') ++ indent (!options.has '2') ++ line ++ [mark]
              let count := fun test => ofNat (found.filter test).length
              let total := if options.has 't' then
                  between.intercalate
                    [count fun entry => match entry with | .first _ => true | _ => false,
                     count fun entry => match entry with | .second _ => true | _ => false,
                     count fun entry => match entry with | .both _ => true | _ => false,
                     "total".toList] ++ [mark]
                else []
              let plain : Rule := ⟨[], none, false, false⟩
              let unordered := [(linesOf x, '1'), (linesOf y, '2')].filter fun entry =>
                (disorder? plain false entry.1).isSome
              let isAllPaired := found.all fun entry => match entry with
                | .both _ => true
                | _ => false
              let outcome := outcome.say (text ++ total)
              if options.has 'n' ∨ (isAllPaired ∧ ¬options.has 'c') ∨ unordered.isEmpty then outcome
              else
                let outcome := unordered.foldl
                  (fun outcome entry =>
                    outcome.complain (invocation.complaint
                      ("file ".toList ++ entry.2 :: " is not in sorted order".toList)) 1)
                  outcome
                outcome.complain (invocation.complaint "input is not in sorted order".toList) 1
          | _ => outcome
      | _ => invocation.extra 2 options invocation.outcome

/-- Puts names into an order that keeps to all pairs, as far as there is one. -/
def arrange : Nat → List (List Char) → List (List Char × List Char) → List (List Char) →
    List (List Char)
  | 0, _, _, found => found.reverse
  | _, [], _, found => found.reverse
  | fuel + 1, name :: queue, pairs, found =>
      let successors := (pairs.filter fun pair => pair.1 = name).map Prod.snd
      let (left, freed) := successors.foldl
        (fun (state : List (List Char × List Char) × List (List Char)) successor =>
          let left := state.1.erase (name, successor)
          if left.any fun pair => pair.2 = successor then (left, state.2)
          else (left, successor :: state.2))
        (pairs, [])
      arrange fuel (queue ++ freed.reverse) left (name :: found)

/-- Orders names that are given in pairs. -/
def tsort : Tool :=
  withOptions [] fun invocation options =>
    invocation.extra 1 options <|
    let (contents, outcome) := invocation.readAll options.operands
    if outcome.status ≠ 0 then outcome
    else
      let isBlank := fun octet : Char => " \t\n".toList.contains octet
      let words := ((contents.flatMap Prod.snd).foldr
        (fun octet (state : List (List Char) × List Char) =>
          if isBlank octet then
            (if state.2.isEmpty then state.1 else state.2 :: state.1, [])
          else (state.1, octet :: state.2))
        ([], []))
      let words := if words.2.isEmpty then words.1 else words.2 :: words.1
      let rec pairUp : List (List Char) → List (List Char × List Char)
        | first :: second :: rest => (first, second) :: pairUp rest
        | _ => []
      let name := titled ((options.operands.head?).getD ['-'])
      if words.length % 2 = 1 then
        outcome.complain (invocation.complaint (ofText
          (name ++ ": input contains an odd number of tokens"))) 1
      else
        let pairs := ((pairUp words).filter fun pair => pair.1 ≠ pair.2).reverse
        let sorted := distinct (fun first second => first == second)
          (words.mergeSort fun first second => compareTexts first second != .gt)
        let free := sorted.filter fun word => !pairs.any fun pair => pair.2 = word
        let ordered := arrange (sorted.length + 1) free pairs []
        let outcome := outcome.say (unlines ordered)
        if ordered.length = sorted.length then outcome
        else
          let rest := sorted.filter fun word => !ordered.contains word
          let outcome := outcome.complain (invocation.complaint (ofText
            (name ++ ": input contains a loop:"))) 1
          let outcome := rest.foldl
            (fun outcome word => outcome.complain (invocation.complaint word) 1) outcome
          outcome.say (unlines rest)

/-- Shuffles lines. -/
def shuf : Tool :=
  withOptions ["e echo", "i=input-range", "n=head-count", "o=output", "r repeat",
    "z zero-terminated", "S:random-source"] fun invocation options =>
      let mark := markOf options
      let range? := (options.value? 'i').map fun text =>
        let first := text.takeWhile Char.isDigit
        match toNat? first, toNat? (text.drop (first.length + 1)) with
        | some low, some high =>
            if text[first.length]? = some '-' ∧ low ≤ high + 1 then
              some ((List.range (high + 1 - low)).map fun index => ofNat (low + index))
            else none
        | _, _ => none
      match range? with
      | some none =>
          invocation.fail ("invalid input range: " ++ curly ((options.value? 'i').getD [])) 1
      | range? =>
          let (contents, outcome) :=
            if options.has 'e' ∨ options.has 'i' then ([], invocation.outcome)
            else invocation.readAll options.operands
          if outcome.status ≠ 0 then outcome
          else
            let given : List (List Char) := match range? with
              | some (some numbers) => numbers
              | _ => if options.has 'e' then options.operands
                  else contents.flatMap fun entry => bareRecords mark entry.2
            let scores := disorder given.length
            let texts : List (List Char) := ((given.zip scores).mergeSort fun first second =>
              first.2.toNat ≤ second.2.toNat).map Prod.fst
            let count := (options.value? 'n').bind toNat?
            let kept := match options.has 'r', count with
              | true, some count => if texts.isEmpty then []
                  else (List.range count).filterMap fun index => texts[index % texts.length]?
              | _, some count => texts.take count
              | _, none => texts
            outcome.say (withMarks mark kept)

end Sorting
end Shell
end Snippets
