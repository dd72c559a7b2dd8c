import Snippets.Shell.Tool.Display
import Snippets.Shell.Tool.Print

/-!
# Rows, factors and sizes of numbers

Programs that count, that take numbers apart, and that write numbers with units.
-/

namespace Snippets
namespace Shell
namespace NumberTool

/-- A decimal number as it is written. -/
structure Written where
  /-- Its digits with a sign, as a whole number. -/
  digits : Int
  /-- The number of digits after the point. -/
  places : Nat
  /-- The number of characters that it takes. -/
  width : Nat

/-- The decimal number that a text spells as a whole. -/
def Written.ofText? (text : List Char) : Option Written :=
  let text := if text.head? = some '+' then text.drop 1 else text
  let isNegative := text.head? = some '-'
  let body := if isNegative then text.drop 1 else text
  let whole := body.takeWhile Char.isDigit
  let rest := body.drop whole.length
  let places := if rest.head? = some '.' then (rest.drop 1).takeWhile Char.isDigit else []
  let rest := if rest.head? = some '.' then (rest.drop 1).drop places.length else rest
  let (power, after) := Figure.exponent 'e' rest
  if (whole.isEmpty ∧ places.isEmpty) ∨ ¬after.isEmpty then none
  else
    let digits : Int := Figure.valueOf 10 (whole ++ places)
    let digits := if isNegative then -digits else digits
    let exact := (places.length : Int) - power
    if exact < 0 then
      some ⟨digits * (Nat.pow 10 (min 400 (-exact).toNat) : Nat), 0, text.length⟩
    else some ⟨digits, exact.toNat, text.length⟩

/-- The digits of a number with a count of digits after the point. -/
def Written.scaled (places : Nat) (number : Written) : Int :=
  number.digits * (Nat.pow 10 (places - number.places) : Nat)

/-- A number with a count of digits after the point, filled up with zeros. -/
def showScaled (places width : Nat) (value : Int) : List Char :=
  let digits := padLeft (places + 1) '0' (ofNat value.natAbs)
  let whole := digits.take (digits.length - places)
  let text := whole ++ if places = 0 then [] else '.' :: digits.drop (digits.length - places)
  if value < 0 then '-' :: padLeft (width - 1) '0' text else padLeft width '0' text

/-- The most numbers of a row without an end. -/
def mostNumbers (invocation : Invocation) : Nat :=
  (invocation.limit.getD 1000000) / 2 + 2

/-- The numbers from a first to a last one, with a step between them. -/
def row (first step : Int) (last : Option Int) (most : Nat) : List Int :=
  let count := match last with
    | none => most
    | some last =>
        if 0 < step then (if last < first then 0 else ((last - first) / step + 1).toNat)
        else if first < last then 0
        else ((first - last) / (-step) + 1).toNat
  (List.range count).map fun index : Nat => first + step * (index : Int)

/-- The parts of a format around its only field: what is before it, the field, its letter, and
what follows it. -/
def fieldOf? (format : List Char) : Option (List Char × Field × Char × List Char) :=
  let rec before : Nat → List Char → List Char → Option (List Char × List Char)
    | 0, _, _ => none
    | _, _, [] => none
    | fuel + 1, found, '%' :: '%' :: rest => before fuel ('%' :: found) rest
    | _, found, '%' :: rest => some (found.reverse, rest)
    | fuel + 1, found, octet :: rest => before fuel (octet :: found) rest
  (before (format.length + 1) [] format).bind fun (start, rest) =>
    let flags := rest.takeWhile fun octet => "-0+ #'".toList.contains octet
    let rest := rest.drop flags.length
    let width := rest.takeWhile Char.isDigit
    let rest := rest.drop width.length
    let (precision, rest) := match rest with
      | '.' :: rest =>
          let digits := rest.takeWhile Char.isDigit
          (some ((toNat? digits).getD 0), rest.drop digits.length)
      | rest => (none, rest)
    match rest with
    | kind :: rest =>
        if "aAeEfFgG".toList.contains kind then
          some (start, ⟨flags, (toNat? width).getD 0, precision⟩, kind, rest)
        else none
    | [] => none

/-- Prints numbers in a row. -/
def seq : Tool := fun invocation =>
  -- A dash before a digit is a sign and no option.
  let isNumber := fun argument : List Char =>
    match argument with
    | '-' :: octet :: _ => octet.isDigit || octet = '.'
    | _ => false
  let options := invocation.arguments.takeWhile fun argument => !isNumber argument
  let numbers := invocation.arguments.drop options.length
  invocation.withOptions ["f=format", "s=separator", "w equal-width"] false 1 options fun options =>
    let operands := options.operands ++ numbers
    let isInfinite := fun text : List Char => text = "inf".toList || text = "infinity".toList
    let one : Written := ⟨1, 0, 1⟩
    let wrong := operands.find? fun operand =>
      (Written.ofText? operand).isNone && !isInfinite operand
    match operands, wrong with
    | [], _ => invocation.misused "missing operand" 1
    | _ :: _ :: _ :: operand :: _, _ => invocation.misused ("extra operand " ++ curly operand) 1
    | _, some operand =>
        invocation.misused ("invalid floating point argument: " ++ curly operand) 1
    | _, none =>
        let read := fun text : List Char => (Written.ofText? text).getD one
        let (first, step, lastText) := match operands with
          | [first, last] => (read first, one, last)
          | [first, step, last] => (read first, read step, last)
          | last => (one, one, last.headD [])
        if step.digits = 0 then
          invocation.misused ("invalid Zero increment value: " ++
            curly (operands[1]?.getD [])) 1
        else
          let last := if isInfinite lastText then none else some (read lastText)
          let places := max first.places step.places
          let exact := max places ((last.map Written.places).getD 0)
          let values := row (first.scaled exact) (step.scaled exact)
            (last.map (Written.scaled exact)) (mostNumbers invocation)
          let units := Nat.pow 10 (exact - places)
          let widthOf := fun number : Written =>
            let width := number.width + (places - number.places)
            if number.places = 0 ∧ 0 < places then width + 1
            else if 0 < number.places ∧ places = 0 then width - number.places - 1
            else width - (number.places - places)
          let width := if options.has 'w' then
              max (widthOf first) ((last.map widthOf).getD 0) else 0
          let field? := (options.value? 'f').map fun format => fieldOf? format
          match field? with
          | some none =>
              let format := (options.value? 'f').getD []
              invocation.fail ("format " ++ curly format ++ (if format.contains '%' then
                " has unknown %" ++ toText ((format.dropWhile (· != '%')).drop 1 |>.take 1) ++
                  " directive" else " has no % directive")) 1
          | field? =>
              let shown := fun value : Int =>
                match field?.bind id with
                | some (before, field, kind, after) =>
                    let figure := Figure.quotient (value < 0) value.natAbs (Nat.pow 10 exact)
                    before ++ (figure.round 64).inField 64 kind field ++ after
                | none => showScaled places width (Int.tdiv value units)
              let between := (options.value? 's').getD ['\n']
              match values with
              | [] => invocation.outcome
              | values =>
                  let text := values.foldr (fun value rest =>
                    shown value ++ (if rest.isEmpty then ['\n'] else between ++ rest)) []
                  invocation.print text

/-- A power of a number with the remainder of a division. -/
def powerMod (modulus : Nat) : Nat → Nat → Nat → Nat
  | 0, _, _ => 1 % modulus
  | fuel + 1, base, exponent =>
      if exponent = 0 then 1 % modulus
      else
        let half := powerMod modulus fuel (base * base % modulus) (exponent / 2)
        if exponent % 2 = 1 then half * base % modulus else half

/-- Whether a number is prime, as the powers of small numbers tell. -/
def isPrime (number : Nat) : Bool :=
  let bases := [2, 3, 5, 7, 11, 13, 17, 19, 23, 29, 31, 37]
  if number < 2 then false
  else if bases.contains number then true
  else if bases.any fun base => number % base = 0 then false
  else
    let twos := (List.range (number.log2 + 1)).foldl
      (fun count exponent =>
        if (number - 1) % Nat.pow 2 exponent = 0 then exponent else count) 0
    let odd := (number - 1) / Nat.pow 2 twos
    bases.all fun base =>
      let start := powerMod number (number.log2 + 2) base odd
      start = 1 || ((List.range twos).foldl
        (fun (state : Nat × Bool) _ =>
          (state.1 * state.1 % number, state.2 || state.1 = number - 1))
        (start, false)).2

/-- A divisor of a number that is not prime, found by a walk that runs into itself. -/
def divisor : Nat → Nat → Nat → Nat → Nat → Nat
  | 0, _, _, _, number => number
  | fuel + 1, slow, fast, step, number =>
      let next := fun value : Nat => (value * value + step) % number
      let slow := next slow
      let fast := next (next fast)
      let common := Nat.gcd (if slow < fast then fast - slow else slow - fast) number
      if common = 1 then divisor fuel slow fast step number
      else if common = number then divisor fuel 2 2 (step + 1) number
      else common

/-- The prime factors of a number, in no order. -/
def factors : Nat → Nat → List Nat
  | 0, _ => []
  | fuel + 1, number =>
      if number < 2 then []
      else if isPrime number then [number]
      else
        let small := if number % 2 = 0 then 2 else if number % 3 = 0 then 3
          else if number % 5 = 0 then 5 else divisor 2000000 2 2 1 number
        if small = number then [number]
        else factors fuel small ++ factors fuel (number / small)

/-- The number and its prime factors. -/
def factorLine (number : Nat) : List Char :=
  let found := (factors (number.log2 + 2) number).mergeSort
  ofNat number ++ ':' :: (found.flatMap fun prime => ' ' :: ofNat prime) ++ ['\n']

/-- Takes numbers apart. -/
def factor : Tool :=
  withOptions ["h exponents"] fun invocation options =>
    let isBlank := fun octet : Char => " \t\n\r\x0b\x0c".toList.contains octet
    let fromInput := options.operands.isEmpty
    let words := if fromInput then
        (invocation.input.splitBy fun first second => isBlank first == isBlank second).filter
          fun word => !(word.head?.any isBlank)
      else options.operands
    let outcome := if fromInput then { invocation.outcome with input := [] }
      else invocation.outcome
    words.foldl
      (fun outcome word =>
        let digits := word.dropWhile fun octet => octet = ' ' || octet = '+'
        match toNat? digits with
        | some number => outcome.say (factorLine number)
        | none =>
            outcome.complain (invocation.complaint (ofText
              (curly word ++ " is not a valid positive integer"))) 1)
      outcome

/-- How the units of numbers are written. -/
inductive Units where
  /-- There are none. -/
  | none
  /-- They are powers of 1000. -/
  | decimal
  /-- They are powers of 1024. -/
  | binary
  /-- They are powers of 1024, with a further letter. -/
  | marked
  /-- They are powers of 1000, or of 1024 with a further letter. -/
  | auto
  deriving DecidableEq, Repr

/-- The units that a word names. -/
def Units.ofText? (text : List Char) : Option Units :=
  match String.ofList text with
  | "none" => some .none
  | "si" => some .decimal
  | "iec" => some .binary
  | "iec-i" => some .marked
  | "auto" => some .auto
  | _ => Option.none

/-- The letters of units. -/
def unitLetters : List Char := "KMGTPEZYRQ".toList

/-- Why a number with a unit cannot be read. -/
inductive UnitTrouble where
  /-- There is no number. -/
  | noNumber
  /-- There is a unit where none may be. -/
  | unwanted
  /-- What follows the number is no unit. -/
  | wrong

/-- A quotient of two natural numbers with a sign. -/
structure Ratio where
  /-- Whether it is negative. -/
  isNegative : Bool
  /-- The upper number. -/
  top : Nat
  /-- The lower number. -/
  bottom : Nat

/-- The number that a text with a unit stands for, and the digits after its point. -/
def readUnits (units : Units) (text : List Char) : Except UnitTrouble (Ratio × Nat) :=
  let isNegative := text.head? = some '-'
  let body := if isNegative then text.drop 1 else text
  let whole := body.takeWhile Char.isDigit
  let rest := body.drop whole.length
  let places := if rest.head? = some '.' then (rest.drop 1).takeWhile Char.isDigit else []
  let rest := if rest.head? = some '.' then (rest.drop 1).drop places.length else rest
  if whole.isEmpty ∧ places.isEmpty then .error .noNumber
  else
    let value := Figure.valueOf 10 (whole ++ places)
    let scaled := fun factor : Nat =>
      (.ok (⟨isNegative, value * factor, Nat.pow 10 places.length⟩, places.length) :
        Except UnitTrouble (Ratio × Nat))
    match rest with
    | [] => scaled 1
    | letter :: more =>
        let letter := if letter = 'k' then 'K' else letter
        match unitLetters.idxOf? letter with
        | none => .error .wrong
        | some index =>
            match units, more with
            | .none, _ => .error .unwanted
            | .decimal, [] => scaled (Nat.pow 1000 (index + 1))
            | .binary, [] => scaled (Nat.pow 1024 (index + 1))
            | .marked, ['i'] => scaled (Nat.pow 1024 (index + 1))
            | .auto, [] => scaled (Nat.pow 1000 (index + 1))
            | .auto, ['i'] => scaled (Nat.pow 1024 (index + 1))
            | _, _ => .error .wrong

/-- A quotient as a whole number, rounded in the way that a word names. -/
def rounded (way : String) (number : Ratio) : Nat :=
  let floor := number.top / number.bottom
  let isExact := number.top % number.bottom = 0
  let up := if isExact then floor else floor + 1
  match way with
  | "up" => if number.isNegative then floor else up
  | "down" => if number.isNegative then up else floor
  | "towards-zero" => floor
  | "nearest" => (2 * number.top + number.bottom) / (2 * number.bottom)
  | _ => up

/-- A number with a unit that makes it short. -/
def writeUnits (units : Units) (way : String) (precision : Option Nat) (places : Nat)
    (number : Ratio) : List Char :=
  let sign := if number.isNegative then ['-'] else []
  match units with
  | .none =>
      let kept := precision.getD places
      let value := rounded way ⟨number.isNegative, number.top * Nat.pow 10 kept, number.bottom⟩
      sign ++ Figure.fixedDigits kept value (Nat.pow 10 kept)
  | units =>
      let base := if units = .decimal then 1000 else 1024
      let power := (List.range 10).foldl
        (fun power exponent =>
          if number.bottom * Nat.pow base (exponent + 1) ≤ number.top then exponent + 1 else power)
        0
      let adjust := fun power : Nat =>
        match precision with
        | some count => min (power * 3) count
        | none => if number.top < 10 * number.bottom * Nat.pow base power then 1 else 0
      let scale := adjust power
      let value := rounded way
        ⟨number.isNegative, number.top * Nat.pow 10 scale, number.bottom * Nat.pow base power⟩
      -- Rounding may lead to the next unit.
      let (value, scale, power) :=
        if base * Nat.pow 10 scale ≤ value then (1, 0, power + 1) else (value, scale, power)
      let hasPoint := value ≠ 0 ∧ value < 10 * Nat.pow 10 scale ∧ 0 < power
      let kept := match precision with
        | some count => count
        | none => if hasPoint then 1 else 0
      let letter := if power = 0 then [] else
        ((unitLetters[power - 1]?).getD 'Q') :: (if units = .marked then ['i'] else [])
      sign ++ Figure.fixedDigits kept value (Nat.pow 10 scale) ++ letter

/-- The fields of a line with the blanks before them, or the parts between separators. -/
def fieldsOf (separator : Option Char) (line : List Char) : List (List Char) :=
  match separator with
  | some mark => splitAt mark line
  | none =>
      let rec split : Nat → List Char → List (List Char)
        | 0, _ => []
        | fuel + 1, text =>
            if text.isEmpty then []
            else
              let blank := text.takeWhile fun octet => octet = ' ' || octet = '\t'
              let rest := text.drop blank.length
              let word := rest.takeWhile fun octet => octet != ' ' && octet != '\t'
              (blank ++ word) :: split fuel (rest.drop word.length)
      split (line.length + 1) line

/-- Writes numbers in lines with other units. -/
def numfmt : Tool :=
  withOptions ["d=delimiter", "e:field", "f:from", "F:format", "g-grouping", "h!header",
    "i:invalid", "p:padding", "r:round", "s:suffix", "t:to", "u:from-unit", "v:to-unit",
    "z zero-terminated", "D-debug"] fun invocation options =>
      let units := fun letter : Char => match options.value? letter with
        | some text => Units.ofText? text
        | none => some Units.none
      match units 'f', units 't' with
      | none, _ => invocation.misused ("invalid argument " ++
          curly ((options.value? 'f').getD []) ++ " for ‘--from’") 1
      | _, none => invocation.misused ("invalid argument " ++
          curly ((options.value? 't').getD []) ++ " for ‘--to’") 1
      | some source, some target =>
          let way := ((options.value? 'r').map toText).getD "from-zero"
          let mode := ((options.value? 'i').map toText).getD "abort"
          let suffix := (options.value? 's').getD []
          let field? := (options.value? 'F').map fieldOf?
          let precision := (field?.bind id).bind fun found => found.2.1.precision
          let padding := ((options.value? 'p').bind toInt?).getD
            (match field?.bind id with
              | some (_, field, _, _) =>
                  if field.flags.contains '-' then -(field.width : Int) else field.width
              | none => 0)
          let fill := if (field?.bind id).any fun found => found.2.1.flags.contains '0' then '0'
            else ' '
          let factor := fun letter : Char =>
            ((options.value? letter).bind Size.ofText?).getD 1
          let mark := markOf options
          let separator := (options.value? 'd').bind List.head?
          let chosen : Nat → Bool := match (options.value? 'e') with
            | none => fun index : Nat => index = 1
            | some text =>
                let items := splitAt ',' text
                fun index : Nat => items.any fun item =>
                  match item.splitBy fun first second => (first = '-') == (second = '-') with
                  | [['-']] => true
                  | [number] => toNat? number = some index
                  | [low, ['-']] => (toNat? low).any (· ≤ index)
                  | [['-'], high] => (toNat? high).any (index ≤ ·)
                  | [low, ['-'], high] =>
                      (toNat? low).any (· ≤ index) && (toNat? high).any (index ≤ ·)
                  | _ => false
          let convert : List Char → Except String (List Char) := fun field =>
            let text := field.dropWhile fun octet => octet = ' ' || octet = '\t'
            let bare := if suffix.isSuffixOf text ∧ !suffix.isEmpty then
              text.take (text.length - suffix.length) else text
            match readUnits source bare with
            | .error .noNumber => .error ("invalid number: " ++ curly bare)
            | .error .unwanted =>
                .error ("rejecting suffix in input: " ++ curly bare ++ " (consider using --from)")
            | .error .wrong => .error ("invalid suffix in input: " ++ curly bare)
            | .ok (number, places) =>
                let number := { number with
                  top := number.top * factor 'u', bottom := number.bottom * factor 'v' }
                let shown := writeUnits target way precision places number ++ suffix
                let shown := match field?.bind id with
                  | some (before, _, _, after) => before ++ shown ++ after
                  | none => shown
                let width := if padding = 0 ∧ separator.isNone ∧ field?.isNone then
                    (field.length : Int) else padding
                let isMoved := text.length < field.length || padding ≠ 0
                .ok (if ¬isMoved then shown
                  else if width < 0 then padRight width.natAbs shown
                  else padLeft width.toNat fill shown)
          let isFromInput := options.operands.isEmpty
          let given := if isFromInput then bareRecords mark invocation.input
            else options.operands
          let header := match options.value? 'h' with
            | none => 0
            | some text => (toNat? text).getD 1
          let start := if isFromInput then { invocation.outcome with input := [] }
            else invocation.outcome
          let (outcome, _) := given.zipIdx.foldl
            (fun (state : Outcome × Bool) entry =>
              let (outcome, isOver) := state
              let (line, index) := entry
              if isOver then state
              else if index < header ∧ isFromInput then (outcome.say (line ++ [mark]), false)
              else
                let fields := (fieldsOf separator line).zipIdx 1
                let results := fields.map fun (field, index) =>
                  if chosen index then convert field else .ok field
                let between := (separator.map fun mark => [mark]).getD []
                let failure := results.findSome? fun
                  | .error (message : String) => some message
                  | .ok _ => none
                let shown := between.intercalate ((results.zip fields).map fun (result, field, _) =>
                  match result with
                  | .ok text => text
                  | .error _ => field)
                match failure with
                | none => (outcome.say (shown ++ [mark]), false)
                | some message =>
                    match mode with
                    | "ignore" => (outcome.say (shown ++ [mark]), false)
                    | "warn" =>
                        ((outcome.write 2 (invocation.complaint (ofText message))).say
                          (shown ++ [mark]), false)
                    | "fail" =>
                        ((outcome.complain (invocation.complaint (ofText message)) 2).say
                          (shown ++ [mark]), false)
                    | _ => (outcome.complain (invocation.complaint (ofText message)) 2, true))
            (start, false)
          outcome

end NumberTool
end Shell
end Snippets
