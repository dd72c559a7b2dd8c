import Snippets.Shell.Tool.Basic

/-!
# Options of programs

Options start with a dash.  They are letters, several of which may share a dash, or words
after two dashes, of which a start is enough that no other word has.  The value of an option may
be a size: a number with a letter for the unit, which is a power of 1024, or a power of 1000 with a
further letter.
-/

namespace Snippets
namespace Shell

/-- Whether an option has a value. -/
inductive OptionValue where
  /-- It has none. -/
  | never
  /-- It has one in the same argument, or in the next one. -/
  | always
  /-- It may have one in the same argument. -/
  | maybe
  deriving DecidableEq, Repr

/-- An option that a program knows. -/
structure OptionForm where
  /-- Its letter, which stands for it also where only its word can be written. -/
  letter : Char
  /-- Whether it has a value. -/
  value : OptionValue
  /-- Its word, if it has one. -/
  word : String
  /-- Whether only its word can be written. -/
  isLong : Bool

/-- The forms of options that are written as a letter, a sign for the value, and a word.  There
are other signs for options of which only the word can be written. -/
def optionForms (texts : List String) : List OptionForm :=
  texts.filterMap fun text =>
    match text.toList with
    | letter :: sign :: word =>
        let value :=
          if sign = '=' ∨ sign = ':' then OptionValue.always
          else if sign = '?' ∨ sign = '!' then .maybe
          else .never
        some ⟨letter, value, String.ofList word, ['-', ':', '!'].contains sign⟩
    | [letter] => some ⟨letter, .never, "", false⟩
    | [] => none

/-- The options of a program and its other arguments. -/
structure Options where
  /-- The letters of options with their values. -/
  given : List (Char × List Char)
  /-- The other arguments. -/
  operands : List (List Char)

namespace Options

/-- Whether a letter is given. -/
def has (letter : Char) (options : Options) : Bool :=
  options.given.any fun entry => entry.1 = letter

/-- The value of a letter that was given last. -/
def value? (letter : Char) (options : Options) : Option (List Char) :=
  (options.given.reverse.find? fun entry => entry.1 = letter).map Prod.snd

/-- The values of a letter in order. -/
def valuesOf (letter : Char) (options : Options) : List (List Char) :=
  options.given.filterMap fun entry => if entry.1 = letter then some entry.2 else none

/-- The last of some letters that is given. -/
def last? (letters : String) (options : Options) : Option Char :=
  (options.given.reverse.find? fun entry => letters.toList.contains entry.1).map Prod.fst

/-- Why options cannot be read. -/
inductive Trouble where
  /-- There is no such letter. -/
  | unknownLetter (letter : Char)
  /-- There is no such word. -/
  | unknownWord (word : List Char)
  /-- A start is that of several words. -/
  | ambiguous (word : List Char) (words : List String)
  /-- A letter has no value. -/
  | letterAlone (letter : Char)
  /-- A word has no value. -/
  | wordAlone (word : String)
  /-- A word has a value that it may not have. -/
  | unwanted (word : String)

/-- The words for what is wrong with options. -/
def Trouble.message : Trouble → String
  | unknownLetter letter => "invalid option -- '" ++ toText [letter] ++ "'"
  | unknownWord word => "unrecognized option '" ++ toText word ++ "'"
  | ambiguous word words =>
      "option '" ++ toText word ++ "' is ambiguous; possibilities:" ++
        "".intercalate (words.map fun word => " '--" ++ word ++ "'")
  | letterAlone letter => "option requires an argument -- '" ++ toText [letter] ++ "'"
  | wordAlone word => "option '--" ++ word ++ "' requires an argument"
  | unwanted word => "option '--" ++ word ++ "' doesn't allow an argument"

/-- What the argument of a word gives, and whether the next argument is its value. -/
def ofWord (forms : List OptionForm) (argument : List Char) (rest : List (List Char)) :
    Except Trouble (Char × List Char × List (List Char)) :=
  let word := (argument.drop 2).takeWhile (· != '=')
  let value? := if word.length + 2 = argument.length then none
    else some (argument.drop (word.length + 3))
  let named := forms.filter fun form => form.word != ""
  let exact := named.filter fun form => form.word.toList = word
  let found := if exact.isEmpty then named.filter fun form => word.isPrefixOf form.word.toList
    else exact
  match found with
  | [] => .error (.unknownWord (argument.takeWhile (· != '=')))
  | form :: others =>
      if others.any fun other => other.letter ≠ form.letter then
        .error (.ambiguous (argument.takeWhile (· != '=')) (found.map OptionForm.word))
      else
        match form.value, value?, rest with
        | .never, none, rest => .ok (form.letter, [], rest)
        | .never, some _, _ => .error (.unwanted form.word)
        | .always, some value, rest => .ok (form.letter, value, rest)
        | .always, none, value :: rest => .ok (form.letter, value, rest)
        | .always, none, [] => .error (.wordAlone form.word)
        | .maybe, value?, rest => .ok (form.letter, value?.getD [], rest)

/-- What the letters of an argument give, and the arguments after it. -/
def ofLetters (forms : List OptionForm) (found : List (Char × List Char)) :
    List Char → List (List Char) →
      Except Trouble (List (Char × List Char) × List (List Char))
  | [], rest => .ok (found.reverse, rest)
  | letter :: more, rest =>
      match forms.find? fun form => form.letter = letter ∧ !form.isLong with
      | none => .error (.unknownLetter letter)
      | some form =>
          match form.value with
          | .never => ofLetters forms ((letter, []) :: found) more rest
          | .maybe => .ok (((letter, more) :: found).reverse, rest)
          | .always =>
              if !more.isEmpty then .ok (((letter, more) :: found).reverse, rest)
              else
                match rest with
                | value :: rest => .ok (((letter, value) :: found).reverse, rest)
                | [] => .error (.letterAlone letter)

/-- Reads options after those found, in any order with other arguments or up to the first of
these. -/
def readFrom (forms : List OptionForm) (anywhere : Bool) :
    Nat → Options → List (List Char) → Except Trouble Options
  | 0, options, _ => .ok options
  | _, options, [] => .ok options
  | fuel + 1, options, argument :: rest =>
      match argument with
      | ['-', '-'] => .ok { options with operands := options.operands ++ rest }
      | '-' :: '-' :: _ =>
          match ofWord forms argument rest with
          | .error trouble => .error trouble
          | .ok (letter, value, rest) =>
              readFrom forms anywhere fuel
                { options with given := options.given ++ [(letter, value)] } rest
      | '-' :: first :: more =>
          match ofLetters forms [] (first :: more) rest with
          | .error trouble => .error trouble
          | .ok (found, rest) =>
              readFrom forms anywhere fuel { options with given := options.given ++ found } rest
      | _ =>
          if anywhere then
            readFrom forms anywhere fuel
              { options with operands := options.operands ++ [argument] } rest
          else .ok { options with operands := options.operands ++ argument :: rest }

/-- The letter that stands for the option which explains a program. -/
def helpLetter : Char := Char.ofNat 0x2370

/-- The letter that stands for the option which names the version of a program. -/
def versionLetter : Char := Char.ofNat 0x2371

/-- The forms of the options that all programs have. -/
def commonForms : List OptionForm :=
  [⟨helpLetter, .never, "help", true⟩, ⟨versionLetter, .never, "version", true⟩]

/-- Reads the options of a program that knows the given forms. -/
def read (forms : List String) (anywhere : Bool) (arguments : List (List Char)) :
    Except Trouble Options :=
  readFrom (optionForms forms ++ commonForms) anywhere (arguments.length + 1) ⟨[], []⟩ arguments

end Options

/-- The line that names the version of a program. -/
def versionLine (path : List Char) : List Char :=
  let name := (path.reverse.takeWhile (· != '/')).reverse
  let version := match String.ofList name with
    | "sed" => "sed (GNU sed) 4.9"
    | "grep" | "egrep" | "fgrep" => "grep (GNU grep) 3.11"
    | "find" => "find (GNU findutils) 4.9.0"
    | "xargs" => "xargs (GNU findutils) 4.9.0"
    | "setsid" => "setsid from util-linux 2.39.3"
    | name => name ++ " (GNU coreutils) 9.4"
  version.toList ++ ['\n']

/-- Runs a program with its options, unless these are wrong or ask what the program does. -/
def Invocation.withOptions (invocation : Invocation) (forms : List String) (anywhere : Bool)
    (failure : Nat) (arguments : List (List Char)) (run : Options → Outcome) : Outcome :=
  match Options.read forms anywhere arguments with
  | .error trouble => invocation.misused trouble.message failure
  | .ok options =>
      if options.has Options.helpLetter then
        invocation.print ("Usage: ".toList ++ invocation.name ++ " [OPTION]...\n".toList)
      else if options.has Options.versionLetter then
        invocation.print (versionLine invocation.name)
      else run options

/-- A program that reads its options first. -/
def withOptions (forms : List String) (run : Invocation → Options → Outcome) : Tool :=
  fun invocation => invocation.withOptions forms true 1 invocation.arguments (run invocation)

/-- A program that turns all that it reads into something else. -/
def filter (forms : List String) (change : Options → List Char → List Char) : Tool :=
  withOptions forms fun invocation options =>
    let (contents, outcome) := invocation.readAll options.operands
    outcome.say (change options (contents.flatMap Prod.snd))

/-- Complains about the first of the operands after a number of them. -/
def Invocation.extra (invocation : Invocation) (count : Nat) (options : Options)
    (run : Outcome) : Outcome :=
  match options.operands[count]? with
  | some operand => invocation.misused ("extra operand " ++ curly operand) 1
  | none => run

/-! ## Sizes -/

namespace Size

/-- The letters of the units, from the smallest one on. -/
def unitLetters : List Char := "KMGTPEZY".toList

/-- What a unit stands for. -/
def unit? (text : List Char) : Option Nat :=
  let power := fun (base : Nat) (letter : Char) =>
    (unitLetters.idxOf? (if letter = 'k' ∨ letter = 'm' ∨ letter = 'g' ∨ letter = 't' then
      letter.toUpper else letter)).map fun index => Nat.pow base (index + 1)
  match text with
  | [] => some 1
  | ['c'] => some 1
  | ['w'] => some 2
  | ['b'] => some 512
  | ['B'] => some 1
  | [letter] => power 1024 letter
  | [letter, 'B'] => power 1000 letter
  | [letter, 'i', 'B'] => power 1024 letter
  | _ => none

/-- The number that a text with a unit stands for. -/
def ofText? (text : List Char) : Option Nat :=
  let text := text.dropWhile (· = ' ')
  let text := if text.head? = some '+' then text.drop 1 else text
  let digits := text.takeWhile Char.isDigit
  match toNat? digits, unit? (text.drop digits.length) with
  | some number, some factor => some (number * factor)
  | none, some factor => if digits.isEmpty ∧ text ≠ [] then some factor else none
  | _, none => none

end Size

end Shell
end Snippets
