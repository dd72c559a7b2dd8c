import Snippets.Shell.Condition
import Snippets.Shell.Tool.Figure
import Snippets.Shell.Tool.Listing
import Snippets.Shell.Tool.Rights

/-!
# Programs about their surroundings

Programs that tell of the machine and its user, that wait, and that test conditions.
-/

namespace Snippets
namespace Shell
namespace Surroundings

/-- A program that only has a status. -/
def constant (status : Nat) : Tool := fun invocation =>
  match invocation.arguments with
  | [argument] =>
      if argument = "--help".toList ∨ argument = "--version".toList then
        (invocation.withOptions [] true 1 [argument] fun _ => invocation.outcome).withStatus status
      else invocation.exit status
  | _ => invocation.exit status

/-- The microseconds of a duration: a number with a letter for the unit. -/
def duration? (text : List Char) : Option Nat :=
  match Figure.ofText? text with
  | none => none
  | some (figure, rest) =>
      let unit : Option Nat := match rest with
        | [] => some 1
        | ['s'] => some 1
        | ['m'] => some 60
        | ['h'] => some 3600
        | ['d'] => some 86400
        | _ => none
      match figure, unit with
      | .quotient isNegative numerator denominator, some unit =>
          if isNegative ∧ numerator ≠ 0 then none
          else
            let scaled := numerator * unit * 1000000
            some ((scaled + denominator - 1) / denominator)
      | .infinite false, some _ => some 1000000000000000000
      | _, _ => none

/-- Waits. -/
def sleep : Tool :=
  withOptions [] fun invocation options =>
    let times := options.operands.map fun text => (text, duration? text)
    let wrong := times.filter fun entry => entry.2.isNone
    if times.isEmpty then invocation.misused "missing operand" 1
    else if wrong.isEmpty then
      { invocation.outcome with
        pause := (times.filterMap Prod.snd).foldl (· + ·) 0 }
    else
      let outcome := wrong.foldl
        (fun outcome entry =>
          outcome.write 2 (invocation.complaint
            (ofText ("invalid time interval " ++ curly entry.1))))
        invocation.outcome
      outcome.complain invocation.hint 1

/-- Prints the working directory. -/
def pwd : Tool :=
  withOptions ["L logical", "P physical"] fun invocation options =>
    let outcome :=
      if options.operands.isEmpty then invocation.outcome
      else invocation.outcome.write 2
        (invocation.complaint "ignoring non-option arguments".toList)
    outcome.say (Listing.absolute invocation.directory ++ ['\n'])

/-- Tests a condition.  Under the name of a bracket the last argument closes it. -/
def test : Tool := fun invocation =>
  let isBracket := Print.lastName invocation.name = ['[']
  if isBracket ∧ invocation.arguments = ["--help".toList] then
    invocation.print "Usage: test EXPRESSION\n".toList
  else if isBracket ∧ invocation.arguments = ["--version".toList] then
    invocation.print (versionLine invocation.name)
  else
    let facts := Condition.Facts.ofFiles invocation.tree invocation.directory
    match Condition.ofCommand .program facts isBracket invocation.arguments with
    | .ok holds => invocation.exit (if holds then 0 else 1)
    | .error fault => invocation.fail (fault.message .program) 2

/-- The name of the machine. -/
def hostName : List Char := "localhost".toList

/-- Prints what is known about the system. -/
def uname : Tool :=
  withOptions ["a all", "s kernel-name", "s-sysname", "n nodename", "r kernel-release", "r-release",
      "v kernel-version", "m machine", "p processor", "i hardware-platform",
      "o operating-system"] fun invocation options =>
    invocation.extra 0 options <|
      let facts : List (Char × String) :=
        [('s', "Linux"), ('n', toText hostName), ('r', "6.1.0"), ('v', "#1 SMP"),
         ('m', "x86_64"), ('p', "unknown"), ('i', "unknown"), ('o', "GNU/Linux")]
      let isAll := options.has 'a'
      let shown := facts.filter fun entry =>
        if isAll then entry.2 != "unknown" else options.has entry.1
      let shown := if shown.isEmpty then facts.take 1 else shown
      invocation.print (ofText (" ".intercalate (shown.map Prod.snd) ++ "\n"))

/-- Prints a line, whatever the options are. -/
def printer (line : String) (forms : List String) : Tool :=
  withOptions forms fun invocation options =>
    invocation.extra 0 options (invocation.print (ofText (line ++ "\n")))

/-- The user that a text stands for. -/
def user? (text : List Char) : Option (String × Nat) :=
  Rights.users.find? fun user =>
    user.1.toList = text || some user.2 = toNat? text

/-- Prints who the user is. -/
def id : Tool :=
  withOptions ["a ", "g group", "G groups", "n name", "r real", "u user", "z zero", "Z context"]
    fun invocation options =>
      let choices := ['u', 'g', 'G'].filter options.has
      if 1 < choices.length then
        invocation.fail "cannot print \"only\" of more than one choice" 1
      else if choices.isEmpty ∧ (options.has 'n' ∨ options.has 'r') then
        invocation.fail "cannot print only names or real IDs in default format" 1
      else if choices.isEmpty ∧ options.has 'z' then
        invocation.fail "option --zero not permitted in default format" 1
      else
        let mark := if options.has 'z' then '\x00' else '\n'
        let line := fun user : String × Nat =>
          let group := (Rights.groups.find? fun group => group.2 = user.2).getD user
          match choices with
          | ['u'] => if options.has 'n' then user.1 else toString user.2
          | [_] => if options.has 'n' then group.1 else toString group.2
          | _ =>
              let shown := fun entry : String × Nat => toString entry.2 ++ "(" ++ entry.1 ++ ")"
              "uid=" ++ shown user ++ " gid=" ++ shown group ++ " groups=" ++ shown group
        if options.operands.isEmpty then
          invocation.print (ofText (line ("root", 0)) ++ [mark])
        else
          options.operands.foldl
            (fun outcome text =>
              match user? text with
              | some user => outcome.say (ofText (line user) ++ [mark])
              | none => invocation.refuse (curly text ++ ": no such user") outcome)
            invocation.outcome

/-- Prints the groups of users. -/
def groups : Tool :=
  withOptions [] fun invocation options =>
    if options.operands.isEmpty then invocation.print "root\n".toList
    else
      options.operands.foldl
        (fun outcome text =>
          match user? text with
          | some user => outcome.say (ofText (user.1 ++ " : " ++ user.1 ++ "\n"))
          | none => invocation.refuse (curly text ++ ": no such user") outcome)
        invocation.outcome

/-- Prints the name of the terminal, of which there is none. -/
def tty : Tool := fun invocation =>
  invocation.withOptions ["s silent", "s-quiet"] true 2 invocation.arguments fun options =>
    match options.operands with
    | [] => (invocation.print (if options.has 's' then [] else "not a tty\n".toList)).withStatus 1
    | operand :: _ => invocation.misused ("extra operand " ++ curly operand) 2

/-- Prints the name of whoever has logged in, which is nobody. -/
def logname : Tool :=
  withOptions [] fun invocation options =>
    invocation.extra 0 options (invocation.fail "no login name" 1)

/-- Prints the number of processors. -/
def nproc : Tool :=
  withOptions ["a-all", "i:ignore"] fun invocation options =>
    invocation.extra 0 options <|
      match (options.value? 'i').map toNat? with
      | some none => invocation.fail ("invalid number: " ++ curly ((options.value? 'i').getD [])) 1
      | ignored =>
          invocation.print (ofNat (max 1 (4 - (ignored.getD none).getD 0)) ++ ['\n'])

/-- Whether a character may be in any name. -/
def isPortable (octet : Char) : Bool :=
  octet.isAlphanum || octet = '.' || octet = '_' || octet = '-'

/-- What is wrong with a path that is to be used. -/
def wrongPath? (invocation : Invocation) (options : Options) (path : List Char) :
    Option String :=
  let parts := (splitAt '/' path).filter fun part => !part.isEmpty
  let strict := options.has 'p' || options.has 'b'
  let dashes := options.has 'P' || options.has 'b'
  let limit := if strict then 14 else FileTree.longestName
  let bad := path.find? fun octet => octet != '/' && !isPortable octet
  if dashes ∧ parts.any fun part => part.head? = some '-' then
    some ("leading '-' in a component of file name " ++ straight path)
  else if dashes ∧ path.isEmpty then some "empty file name"
  else if strict ∧ path.isEmpty then some "empty file name"
  else
    match strict, bad with
    | true, some octet =>
        some ("non-portable character " ++ straight [octet] ++ " in file name " ++ straight path)
    | _, _ =>
        let long := parts.find? fun part => limit < part.length
        let words := fun part : List Char =>
          "limit " ++ toString limit ++ " exceeded by length " ++ toString part.length ++
            " of file name component " ++ curly part
        if strict then long.map words
        else
          match invocation.find invocation.tree path false with
          | .ok _ => none
          | .error .missing =>
              if path.isEmpty then some (straight path ++ ": " ++ lookupMessage .missing)
              else long.map words
          | .error .tooLong =>
              if parts.length = 1 then some (titled path ++ ": " ++ lookupMessage .tooLong)
              else (long.map words).orElse fun _ =>
                some (titled path ++ ": " ++ lookupMessage .tooLong)
          | .error failure => some (titled path ++ ": " ++ lookupMessage failure)

/-- Tells whether paths can be used. -/
def pathchk : Tool :=
  withOptions ["p ", "P ", "b-portability"] fun invocation options =>
    if options.operands.isEmpty then invocation.misused "missing operand" 1
    else
      options.operands.foldl
        (fun outcome path =>
          match wrongPath? invocation options path with
          | some message => invocation.refuse message outcome
          | none => outcome)
        invocation.outcome

/-- Prints the name of the machine. -/
def hostname : Tool := fun invocation =>
  invocation.print (hostName ++ ['\n'])

/-- Prints the values of settings of the system. -/
def getconf : Tool := fun invocation =>
  let values : List (String × String) :=
    [("PAGE_SIZE", "4096"), ("PAGESIZE", "4096"), ("ARG_MAX", "2097152"), ("NAME_MAX", "255"),
     ("PATH_MAX", "4096"), ("LONG_BIT", "64"), ("_NPROCESSORS_ONLN", "4"),
     ("_NPROCESSORS_CONF", "4"), ("CHAR_BIT", "8"), ("INT_MAX", "2147483647"),
     ("OPEN_MAX", "1048576"), ("CLK_TCK", "100")]
  match invocation.arguments with
  | name :: _ =>
      match values.lookup (String.ofList name) with
      | some value => invocation.print (ofText (value ++ "\n"))
      | none =>
          invocation.fail ("Unrecognized variable \x60" ++ toText name ++ "'") 2
  | [] => invocation.exit 2

end Surroundings
end Shell
end Snippets
