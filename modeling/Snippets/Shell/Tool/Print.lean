import Snippets.Shell.Tool.Date

/-!
# Printing arguments

What is printed from arguments alone: texts with escapes in them, and formatted texts.
-/

namespace Snippets
namespace Shell

/-- Who prints: one of the shells, or a program of its own. -/
inductive Printer where
  /-- A shell. -/
  | shell (dialect : Dialect)
  /-- A program. -/
  | program
  deriving DecidableEq, Repr

namespace Print

/-- Where an escape stands. -/
inductive Spot where
  /-- In a text that is printed as a whole. -/
  | echo
  /-- In an argument of a format. -/
  | argument
  /-- In a format. -/
  | format
  deriving DecidableEq, Repr

/-- What an escape stands for. -/
inductive Escape where
  /-- Octets, before a rest. -/
  | octets (octets rest : List Char)
  /-- The end of the output. -/
  | stop
  /-- Nothing, so that the backslash stands for itself, and what is wrong with it. -/
  | literal (complaint : Option String)

/-- The escapes that everybody knows. -/
def commonEscapes : List (Char × Char) :=
  [('\\', '\\'), ('a', '\x07'), ('b', '\x08'), ('f', '\x0c'), ('n', '\n'), ('r', '\r'),
   ('t', '\t'), ('v', '\x0b'), ('e', '\x1b')]

/-- An octet of octal digits. -/
def octal (count : Nat) (rest : List Char) : Option (List Char × List Char) :=
  (Words.digits 8 count rest).map fun found => ([Char.ofNat (found.1 % 256)], found.2)

/-- The escape after a backslash. -/
def escape (printer : Printer) (spot : Spot) (rest : List Char) : Escape :=
  let isBash := printer = .shell .bash
  let isPlain := printer = .shell .plain
  let ofDigits := fun (found : Option (List Char × List Char)) =>
    match found with
    | some (octets, rest) => Escape.octets octets rest
    | none => .literal none
  match rest with
  | [] => .literal none
  | letter :: more =>
      match commonEscapes.lookup letter with
      | some octet => .octets [octet] more
      | none =>
          if letter = 'E' ∧ isBash then .octets ['\x1b'] more
          else if letter = 'c' ∧ (spot ≠ .format ∨ printer = .program) then .stop
          else if letter = '"' ∧ (printer = .program ∧ spot ≠ .echo ∨ isBash ∧ spot = .format) then
            .octets [letter] more
          else if (letter = '\'' ∨ letter = '?') ∧ isBash ∧ spot = .format then
            .octets [letter] more
          else if letter = '0' ∧ spot ≠ .format then
            match octal 3 more with
            | some (octets, rest) => .octets octets rest
            | none => .octets ['\x00'] more
          else if '0' ≤ letter ∧ letter ≤ '7' ∧ (spot ≠ .echo ∨ ¬isBash) then
            ofDigits (octal 3 rest)
          else if letter = 'x' ∧ ¬isPlain then
            match Words.digits 16 2 more with
            | some (value, rest) => .octets [Char.ofNat value] rest
            | none =>
                .literal (if spot = .echo then none
                  else if isBash then some "missing hex digit for \\x"
                  else some "missing hexadecimal number in escape")
          else if (letter = 'u' ∨ letter = 'U') ∧ ¬isPlain ∧ (isBash ∨ spot ≠ .echo) then
            match Words.digits 16 (if letter = 'u' then 4 else 8) more with
            | some (code, rest) => .octets (Words.ofCode code) rest
            | none =>
                .literal (if spot = .echo then none
                  else if isBash then some ("missing unicode digit for \\" ++ toText [letter])
                  else some "missing hexadecimal number in escape")
          else .literal none

/-- What has been printed: a text, what is wrong with the arguments, and whether nothing
follows. -/
structure Printed where
  /-- The text, in reverse. -/
  reversed : List Char
  /-- What is wrong, the latest first. -/
  complaints : List String
  /-- The status. -/
  status : Nat
  /-- Whether nothing follows. -/
  isOver : Bool

namespace Printed

/-- Nothing has been printed. -/
def empty : Printed := ⟨[], [], 0, false⟩

/-- Adds octets. -/
def push (octets : List Char) (printed : Printed) : Printed :=
  { printed with reversed := octets.reverseAux printed.reversed }

/-- Adds a complaint, which may leave the status as it is. -/
def complain (complaint : String) (status : Nat) (printed : Printed) : Printed :=
  { printed with
    complaints := complaint :: printed.complaints, status := max status printed.status }

/-- Ends the output. -/
def finish (printed : Printed) : Printed :=
  { printed with isOver := true }

/-- The text. -/
def text (printed : Printed) : List Char :=
  printed.reversed.reverse

end Printed

/-- Prints a text whose escapes are read. -/
def escaped (printer : Printer) (spot : Spot) : Nat → List Char → Printed → Printed
  | 0, _, printed => printed
  | fuel + 1, text, printed =>
      match text with
      | [] => printed
      | '\\' :: rest =>
          match escape printer spot rest with
          | .octets octets rest => escaped printer spot fuel rest (printed.push octets)
          | .stop => printed.finish
          | .literal complaint =>
              let printed := printed.push ['\\']
              let printed := match complaint with
                | some words => printed.complain words 1
                | none => printed
              escaped printer spot fuel rest printed
      | octet :: rest => escaped printer spot fuel rest (printed.push [octet])

/-- A text whose escapes have been read. -/
def readEscapes (printer : Printer) (spot : Spot) (text : List Char) : Printed :=
  if text.contains '\\' then escaped printer spot (text.length + 1) text .empty
  else Printed.empty.push text

/-- Whether an argument consists of options for printing. -/
def isEchoOption (printer : Printer) (argument : List Char) : Bool :=
  match printer, argument with
  | .shell .plain, argument => argument = ['-', 'n']
  | _, '-' :: letters =>
      !letters.isEmpty && letters.all fun letter => letter = 'n' || letter = 'e' || letter = 'E'
  | _, _ => false

/-- Prints arguments with spaces between them. -/
def echo (printer : Printer) (readsEscapes : Bool) (arguments : List (List Char)) : List Char :=
  let options := (arguments.takeWhile (isEchoOption printer)).take
    (if printer = .shell .plain then 1 else arguments.length)
  let letters := options.flatMap (List.drop 1)
  let text := [' '].intercalate (arguments.drop options.length)
  let reads := printer = .shell .plain ||
    match (letters.filter fun letter => letter != 'n').getLast? with
    | some letter => letter = 'e'
    | none => readsEscapes
  let printed := if reads then readEscapes printer .echo text else Printed.empty.push text
  if printed.isOver || letters.contains 'n' then printed.text else printed.text ++ ['\n']

/-- What an argument is as a number: its value, and what is wrong with it. -/
structure Value where
  /-- The value. -/
  value : Int
  /-- What follows the number in the argument. -/
  rest : List Char
  /-- Whether there is a number at all. -/
  isThere : Bool

/-- The base that a letter after a zero stands for. -/
def baseOf? (letter : Char) : Option Nat :=
  match letter with
  | 'x' | 'X' => some 16
  | 'b' | 'B' => some 2
  | _ => none

/-- The number at the start of an argument.  It may be written in base two, eight or sixteen. -/
def Value.ofText (argument : List Char) : Value :=
  let text := argument.dropWhile fun octet => " \t\n\r\x0b\x0c".toList.contains octet
  let isNegative := text.head? = some '-'
  let digits := if isNegative ∨ text.head? = some '+' then text.drop 1 else text
  let marked := match digits with
    | '0' :: mark :: rest =>
        (baseOf? mark).bind fun base =>
          let kept := rest.takeWhile fun octet => Words.digitValue octet < base
          if kept.isEmpty then none else some (base, kept, rest.drop kept.length)
    | _ => none
  let (base, kept, rest) := match marked with
    | some found => found
    | none =>
        let base := if digits.head? = some '0' then 8 else 10
        let kept := digits.takeWhile fun octet => Words.digitValue octet < base
        (base, kept, digits.drop kept.length)
  let value : Int := Figure.valueOf base kept
  ⟨if isNegative then -value else value, if kept.isEmpty then argument else rest, !kept.isEmpty⟩

/-- The code of the character after a quote at the start of an argument. -/
def quotedCode? (printer : Printer) (argument : List Char) : Option Nat :=
  match argument with
  | quote :: rest =>
      if quote = '\'' ∨ quote = '"' then
        match rest with
        | [] => some 0
        | first :: more =>
            if printer = .shell .plain then some first.toNat
            else
              let code := (firstCharacter first more).1.toNat
              some (if strayCode ≤ code then first.toNat else code)
      else none
  | [] => none

/-- The words for an argument that is no number, or not as a whole. -/
def wrongNumber (printer : Printer) (argument : List Char) (isThere : Bool) : String :=
  match printer with
  | .shell .bash =>
      let kind := match argument with
        | '0' :: mark :: _ =>
            if mark = 'x' then "hex " else if mark.isDigit then "octal " else ""
        | _ => ""
      toText argument ++ ": invalid " ++ kind ++ "number"
  | .shell .plain =>
      toText argument ++ (if isThere then ": not completely converted"
        else ": expected numeric value")
  | .program =>
      curly argument ++ (if isThere then ": value not completely converted"
        else ": expected a numeric value")

/-- The greatest number of 64 bits with a sign. -/
def greatest : Int := 0x7fffffffffffffff

/-- The value of an argument as a whole number, kept within a range. -/
def integer (printer : Printer) (isSigned : Bool) (argument : List Char) (printed : Printed) :
    Int × Printed :=
  match quotedCode? printer argument with
  | some code => (code, printed)
  | none =>
      let found := Value.ofText argument
      let value := found.value
      let tooGreat := if isSigned then greatest < value else 2 * greatest + 1 < value
      let tooSmall := value < -greatest - 1
      let kept := if tooGreat then (if isSigned then greatest else 2 * greatest + 1)
        else if tooSmall then (if isSigned then -greatest - 1 else 2 * greatest + 1)
        else value
      let printed :=
        if !argument.isEmpty ∧ (!found.isThere ∨ !found.rest.isEmpty) then
          printed.complain (wrongNumber printer argument found.isThere) 1
        else if tooGreat ∨ tooSmall then
          let words := "Numerical result out of range"
          match printer with
          | .shell .bash =>
              printed.complain ("warning: " ++ toText argument ++ ": " ++ words) 0
          | .shell .plain => printed.complain (toText argument ++ ": " ++ words) 1
          | .program => printed.complain (curly argument ++ ": " ++ words) 1
        else printed
      (kept, printed)

/-- The number of bits that a printer keeps of a number with a point. -/
def bitsOf (printer : Printer) : Nat :=
  if printer = .shell .plain then 53 else 64

/-- The value of an argument as a number with a point. -/
def figure (printer : Printer) (argument : List Char) (printed : Printed) : Figure × Printed :=
  match quotedCode? printer argument with
  | some code => (.ofInt code, printed)
  | none =>
      match Figure.ofText? argument with
      | some (figure, rest) =>
          (figure.round (bitsOf printer),
            if rest.isEmpty then printed
            else printed.complain (wrongNumber printer argument true) 1)
      | none =>
          (.zero,
            if argument.isEmpty then printed
            else printed.complain (wrongNumber printer argument false) 1)

/-- A whole number as a field of a kind shows it. -/
def integerField (kind : Char) (field : Field) (value : Int) : List Char :=
  let unsigned := (if value < 0 then value + 2 * (greatest + 1) else value).toNat
  let digits := match kind with
    | 'd' | 'i' => ofNat value.natAbs
    | 'u' => ofNat unsigned
    | 'o' =>
        let digits := Nat.toDigits 8 unsigned
        if field.flags.contains '#' ∧ digits.head? ≠ some '0' then '0' :: digits else digits
    | 'X' => (Nat.toDigits 16 unsigned).map Char.toUpper
    | _ => Nat.toDigits 16 unsigned
  let digits := match field.precision with
    | some 0 => if value = 0 then [] else digits
    | some count => padLeft count '0' digits
    | none => digits
  let sign :=
    if kind = 'd' ∨ kind = 'i' then field.sign (value < 0)
    else if field.flags.contains '#' ∧ value ≠ 0 ∧ (kind = 'x' ∨ kind = 'X') then ['0', kind]
    else []
  field.number sign digits field.precision.isNone

/-- What a format refers to besides its arguments. -/
structure Setting where
  /-- Who prints. -/
  printer : Printer
  /-- The time in microseconds. -/
  clock : Nat
  /-- The time at which the shell was started, in microseconds. -/
  start : Nat
  /-- The time zone. -/
  zone : Zone

/-- The width or the precision that is given before a letter: by digits, or by an argument. -/
def count? (printer : Printer) (format : List Char) (arguments : List (List Char))
    (printed : Printed) : Option Int × List Char × List (List Char) × Printed :=
  match format with
  | '*' :: rest =>
      let (value, printed) := integer printer true (arguments.head?.getD []) printed
      (some value, rest, arguments.drop 1, printed)
  | rest =>
      let digits := rest.takeWhile Char.isDigit
      ((toNat? digits).map fun value => (value : Int), rest.drop digits.length, arguments, printed)

/-- The words for a letter that names no kind of field. -/
def wrongKind (printer : Printer) (written : List Char) (kind : Option Char) : String × Nat :=
  match printer, kind with
  | .shell .bash, none => ("\x60" ++ toText written ++ "': missing format character", 1)
  | .shell .bash, some kind => ("\x60" ++ toText [kind] ++ "': invalid format character", 1)
  | .shell .plain, none => ("missing format character", 2)
  | .shell .plain, some _ => (toText written ++ ": invalid directive", 2)
  | .program, _ => (toText written ++ ": invalid conversion specification", 1)

/-- An argument as a field of a kind shows it, if there is such a kind. -/
def shown? (setting : Setting) (kind : Char) (field : Field) (argument : List Char)
    (printed : Printed) : Option Printed :=
  let printer := setting.printer
  match kind with
  | 's' => some (printed.push (field.text argument))
  | 'b' =>
      let inner := readEscapes printer .argument argument
      let printed := { (printed.push (field.text inner.text)) with
        complaints := inner.complaints ++ printed.complaints
        status := max inner.status printed.status }
      some (if inner.isOver then printed.finish else printed)
  | 'c' =>
      some (printed.push ({ field with precision := none }.text
        (if argument.isEmpty then ['\x00'] else argument.take 1)))
  | 'q' =>
      match printer with
      | .shell .bash => some (printed.push (field.text (Quoting.asWord argument)))
      | .shell .plain => none
      | .program => some (printed.push (field.text (ofText (titled argument))))
  | 'Q' =>
      if printer = .shell .bash then
        let cut := { field with width := 0, flags := [] }.text argument
        some (printed.push ({ field with precision := none }.text (Quoting.asWord cut)))
      else none
  | kind =>
      if ['d', 'i', 'u', 'x', 'X', 'o'].contains kind then
        let (value, printed) := integer printer (kind = 'd' || kind = 'i') argument printed
        some (printed.push (integerField kind field value))
      else if ['f', 'F', 'e', 'E', 'g', 'G', 'a', 'A'].contains kind then
        let (figure, printed) := figure printer argument printed
        some (printed.push (figure.inField (bitsOf printer) kind field))
      else none

/-- Prints a format once.  The arguments that are left come with what has been printed. -/
def formatOnce (setting : Setting) : Nat → List Char → List (List Char) → Printed →
    Printed × List (List Char)
  | 0, _, arguments, printed => (printed.finish, arguments)
  | fuel + 1, format, arguments, printed =>
      let printer := setting.printer
      match format with
      | [] => (printed, arguments)
      | '%' :: '%' :: rest => formatOnce setting fuel rest arguments (printed.push ['%'])
      | '%' :: rest =>
          let flags := rest.takeWhile fun octet => "-0+ #'".toList.contains octet
          let (width, after, arguments, printed) :=
            count? printer (rest.drop flags.length) arguments printed
          let flags := if width.any (· < 0) then '-' :: flags else flags
          let (precision, after, arguments, printed) := match after with
            | '.' :: after =>
                let (precision, after, arguments, printed) :=
                  count? printer after arguments printed
                (some (precision.getD 0), after, arguments, printed)
            | after => (none, after, arguments, printed)
          let after := if printer = .shell .plain then after
            else after.dropWhile fun octet => "hlLjzt".toList.contains octet
          let precision := precision.bind fun count =>
            if count < 0 then none else some count.toNat
          let field : Field := ⟨flags, (width.map Int.natAbs).getD 0, precision⟩
          let fail := fun (kind : Option Char) (after : List Char) =>
            let written := '%' :: rest.take (rest.length - after.length)
            let (words, status) := wrongKind printer written kind
            ((printed.complain words status).finish, arguments)
          match after with
          | [] => fail none []
          | '(' :: more =>
              if printer = .shell .bash then
                let inside := more.takeWhile (· != ')')
                match more.drop inside.length with
                | ')' :: 'T' :: after =>
                    let pattern := if inside.isEmpty then "%X".toList else inside
                    let (value, printed) := match arguments with
                      | [] => ((-1 : Int), printed)
                      | argument :: _ => integer printer true argument printed
                    let seconds : Int :=
                      if value = -1 then (setting.clock / 1000000 : Nat)
                      else if value = -2 then (setting.start / 1000000 : Nat)
                      else value
                    let text := Clock.format setting.zone seconds 0 pattern
                    formatOnce setting fuel after (arguments.drop 1)
                      (printed.push (field.text text))
                | _ => fail (some '(') more
              else fail (some '(') more
          | kind :: after =>
              match shown? setting kind field (arguments.head?.getD []) printed with
              | some printed =>
                  if printed.isOver then (printed, [])
                  else formatOnce setting fuel after (arguments.drop 1) printed
              | none => fail (some kind) after
      | '\\' :: rest =>
          match escape printer .format rest with
          | .octets octets rest => formatOnce setting fuel rest arguments (printed.push octets)
          | .stop => (printed.finish, [])
          | .literal complaint =>
              let printed := printed.push ['\\']
              let printed := match complaint with
                | some words => printed.complain words (if printer = .program then 1 else 0)
                | none => printed
              formatOnce setting fuel rest arguments printed
      | octet :: rest => formatOnce setting fuel rest arguments (printed.push [octet])

/-- Prints a format until the arguments are used up. -/
def formatAll (setting : Setting) (format : List Char) :
    Nat → List (List Char) → Printed → Printed
  | 0, _, printed => printed
  | fuel + 1, arguments, printed =>
      let (printed, rest) := formatOnce setting (format.length + 1) format arguments printed
      if printed.isOver || rest.isEmpty || rest.length = arguments.length then printed
      else formatAll setting format fuel rest printed

/-- Prints arguments in a format. -/
def printf (setting : Setting) (format : List Char) (arguments : List (List Char)) : Printed :=
  formatAll setting format (arguments.length + 1) arguments .empty

/-- The program that prints arguments. -/
def echoProgram : Tool := fun invocation =>
  match invocation.arguments with
  | [argument] =>
      if argument = "--help".toList ∨ argument = "--version".toList then
        invocation.withOptions [] true 0 invocation.arguments fun _ => invocation.outcome
      else invocation.print (echo .program false [argument])
  | arguments => invocation.print (echo .program false arguments)

/-- The program that prints a format. -/
def printfProgram : Tool := fun invocation =>
  let arguments := if invocation.arguments.head? = some "--".toList then
      invocation.arguments.drop 1 else invocation.arguments
  match arguments with
  | [] => invocation.misused "missing operand" 1
  | format :: rest =>
      let printed := printf ⟨.program, invocation.clock, invocation.clock, invocation.zone⟩ format
        rest
      let outcome := printed.complaints.reverse.foldl
        (fun outcome words => outcome.write 2 (invocation.complaint (ofText words)))
        invocation.outcome
      (outcome.say printed.text).withStatus printed.status

/-- Prints a line again and again. -/
def yes : Tool :=
  withOptions [] fun invocation options =>
    let line := if options.operands.isEmpty then ['y']
      else [' '].intercalate options.operands
    match invocation.limit with
    | some limit =>
        let count := limit / (line.length + 1) + 2
        invocation.print (List.replicate count (line ++ ['\n'])).flatten
    | none => { invocation.outcome with pause := 1000000000000 }

/-- The last name of a path. -/
def lastName (path : List Char) : List Char :=
  let trimmed := (path.reverse.dropWhile (· = '/')).reverse
  if trimmed.isEmpty then (if path.isEmpty then [] else ['/'])
  else (trimmed.reverse.takeWhile (· != '/')).reverse

/-- A path without its last name. -/
def parentPath (path : List Char) : List Char :=
  let trimmed := path.reverse.dropWhile (· = '/')
  let before := (trimmed.dropWhile (· != '/')).dropWhile (· = '/')
  if before.isEmpty then (if path.head? = some '/' then ['/'] else ['.']) else before.reverse

/-- Prints the last names of paths without a given end. -/
def basename : Tool := fun invocation =>
  invocation.withOptions ["a multiple", "s=suffix", "z zero"] false 1 invocation.arguments
    fun options =>
      let without := fun (ending name : List Char) =>
        if ending.isSuffixOf name ∧ name.length ≠ ending.length then
          name.take (name.length - ending.length)
        else name
      let mark := markOf options
      match options.operands with
      | [] => invocation.misused "missing operand" 1
      | path :: rest =>
          if options.has 'a' ∨ options.has 's' then
            invocation.print (withMarks mark (options.operands.map fun path =>
              without ((options.value? 's').getD []) (lastName path)))
          else
            invocation.extra 2 options
              (invocation.print (without (rest.head?.getD []) (lastName path) ++ [mark]))
where
  /-- The mark after each name. -/
  markOf (options : Options) : Char := if options.has 'z' then '\x00' else '\n'
  /-- Names with marks after them. -/
  withMarks (mark : Char) (names : List (List Char)) : List Char :=
    names.flatMap fun name => name ++ [mark]

/-- Prints paths without their last names. -/
def dirname : Tool :=
  withOptions ["z zero"] fun invocation options =>
    if options.operands.isEmpty then invocation.misused "missing operand" 1
    else
      let mark := if options.has 'z' then '\x00' else '\n'
      invocation.print (options.operands.flatMap fun path => parentPath path ++ [mark])

/-- Prints the variables of the environment, or the values of some of them. -/
def printenv : Tool := fun invocation =>
  invocation.withOptions ["0 null"] false 2 invocation.arguments fun options =>
    let mark := if options.has '0' then '\x00' else '\n'
    if options.operands.isEmpty then
      invocation.print (invocation.environment.flatMap fun entry =>
        entry.1 ++ '=' :: entry.2 ++ [mark])
    else
      let values := options.operands.map fun name => invocation.environment.lookup name
      (invocation.print ((values.filterMap id).flatMap fun value => value ++ [mark])).withStatus
        (if values.all Option.isSome then 0 else 1)

end Print
end Shell
end Snippets
