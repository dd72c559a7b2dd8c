import Snippets.Shell.Builtin.Settings

/-!
# Starting shells

A shell reads from its arguments what it runs, and takes the variables of the program that
starts it.
-/

namespace Snippets
namespace Shell

/-- What a shell is asked to run. -/
inductive Task where
  /-- The text of an argument. -/
  | text (script : List Char)
  /-- A file. -/
  | file (path : List Char)
  /-- Standard input. -/
  | input
  deriving DecidableEq, Repr

namespace Startup

/-- What arguments have asked for so far. -/
structure Wish where
  /-- Whether an argument is the script. -/
  isText : Bool
  /-- Whether the script is read from standard input. -/
  isInput : Bool

/-- The words for an argument that is no option. -/
def illegal (text : List Char) (state : State) : State :=
  let words := if state.isBash then toText text ++ ": invalid option"
    else "0: Illegal option " ++ toText text
  (state.write 2 (state.name ++ ofText (": " ++ words ++ "\n"))).withStatus Builtin.usage

/-- The long options of the shell with the extensions. -/
def longOptions : List String :=
  ["debug", "debugger", "dump-po-strings", "dump-strings", "help", "init-file", "login",
   "noediting", "noprofile", "norc", "posix", "pretty-print", "rcfile", "restricted",
   "verbose", "version"]

/-- The parts of the version of the shell with the extensions. -/
def versionParts : List String :=
  ["5", "2", "21", "1", "release", "x86_64-pc-linux-gnu"]

/-- The version of the shell with the extensions. -/
def versionName : String :=
  let part := fun index : Nat => versionParts[index]?.getD ""
  part 0 ++ "." ++ part 1 ++ "." ++ part 2 ++ "(" ++ part 3 ++ ")-" ++ part 4

/-- The line that names the version of the shell with the extensions. -/
def versionText : List Char :=
  ("GNU bash, version " ++ versionName ++ " (" ++ (versionParts[5]?.getD "") ++ ")\n").toList

/-- The text that tells how the shell with the extensions is used. -/
def usageText (name : List Char) : List Char :=
  "Usage:\t".toList ++ name ++ " [GNU long option] [option] ...\n\t".toList ++ name ++
    " [GNU long option] [option] script-file ...\nGNU long options:\n".toList ++
    (longOptions.flatMap fun option => '\t' :: '-' :: '-' :: option.toList ++ ['\n']) ++
    ("Shell options:\n\t-ilrsD or -c command or -O shopt_option\t\t(invocation only)\n" ++
      "\t-abefhkmnptuvxBCEHPT or -o option\n").toList

/-- Reads the letters of an option. -/
def readLetters (on : Bool) :
    List Char → Wish → List (List Char) → State →
      Except State (Wish × List (List Char) × State)
  | [], wish, rest, state => .ok (wish, rest, state)
  | letter :: more, wish, rest, state =>
      let sign := if on then '-' else '+'
      match letter with
      | 'c' => readLetters on more { wish with isText := true } rest state
      | 'l' => readLetters on more wish rest (state.setSetting "login_shell" on)
      | 'o' =>
          match rest with
          | [] =>
              readLetters on more wish [] (state.write 1 (Builtin.settingLines (!on) state))
          | name :: rest =>
              match Builtin.setName on name state with
              | some state => readLetters on more wish rest state
              | none =>
                  if state.isBash then
                    .error ((state.write 2 (state.name ++ ": line 0: ".toList ++ state.name ++
                      ": ".toList ++ name ++ ": invalid option name\n".toList)).withStatus
                        Builtin.usage)
                  else .error (illegal ("-o ".toList ++ name) state)
      | letter =>
          let isExtra := state.isBash && "siOrD".toList.contains letter
          if isExtra then
            match letter, rest with
            | 's', rest => readLetters on more { wish with isInput := true } rest state
            | 'O', name :: rest =>
                let option := toText name
                if State.optionNames.contains option then
                  readLetters on more wish rest (state.setSetting option on)
                else
                  .error ((state.write 2 (state.name ++ ": line 0: ".toList ++ name ++
                    ": invalid shell option name\n".toList)).withStatus Builtin.usage)
            | _, rest => readLetters on more wish rest state
          else
            match Builtin.setLetter on letter state with
            | some state =>
                readLetters on more { wish with isInput := state.has "stdin" } rest state
            | none =>
                if state.isBash then
                  let state := illegal [sign, letter] state
                  .error (state.write 2 (usageText state.name))
                else .error (illegal ['-', letter] state)

/-- Reads options of letters up to the first argument that is none.  The fuel bounds their
number. -/
def readOptions : Nat → Wish → List (List Char) → State →
    Except State (Wish × List (List Char) × State)
  | 0, wish, rest, state => .ok (wish, rest, state)
  | fuel + 1, wish, rest, state =>
      match rest with
      | ['-'] :: rest => .ok (wish, rest, state)
      | ['-', '-'] :: rest => .ok (wish, rest, state)
      | ('-' :: letters) :: rest =>
          (readLetters true letters wish rest state).bind fun found =>
            readOptions fuel found.1 found.2.1 found.2.2
      | ('+' :: letters) :: rest =>
          (readLetters false letters wish rest state).bind fun found =>
            readOptions fuel found.1 found.2.1 found.2.2
      | rest => .ok (wish, rest, state)

/-- Reads long options up to the first argument that is none. -/
def readLong : Nat → List (List Char) → State → Except State (List (List Char) × State)
  | 0, rest, state => .ok (rest, state)
  | fuel + 1, rest, state =>
      match rest with
      | ('-' :: first :: letters) :: after =>
          let isLong := first = '-'
          let option := String.ofList (if isLong then letters else first :: letters)
          if longOptions.contains option then
            match option, after with
            | "login", after => readLong fuel after (state.setSetting "login_shell" true)
            | "posix", after => readLong fuel after (state.setSetting "posix" true)
            | "verbose", after => readLong fuel after (state.setSetting "verbose" true)
            | "help", _ => .error ((state.write 1 (usageText state.name)).withStatus 0)
            | "version", _ => .error ((state.write 1 versionText).withStatus 0)
            | "rcfile", _ :: after => readLong fuel after state
            | "init-file", _ :: after => readLong fuel after state
            | "rcfile", [] | "init-file", [] =>
                .error ((state.write 2 (state.name ++ ofText (": " ++ option ++
                  ": option requires an argument\n"))).withStatus Builtin.usage)
            | _, after => readLong fuel after state
          else if isLong ∧ !letters.isEmpty then
            let state := illegal ('-' :: first :: letters) state
            .error (state.write 2 (usageText state.name))
          else .ok (rest, state)
      | rest => .ok (rest, state)

/-- The task that arguments ask for and the shell that carries it out, or a shell that has
complained. -/
def readTask (arguments : List (List Char)) (state : State) : Except State (Task × State) := do
  let fuel := arguments.length + 1
  let (rest, state) ← if state.isBash then readLong fuel arguments state
    else .ok (arguments, state)
  let (wish, rest, state) ← readOptions fuel ⟨false, false⟩ rest state
  if wish.isText then
    match rest with
    | [] =>
        let words := if state.isBash then ": -c: option requires an argument\n"
          else ": 0: -c requires an argument\n"
        .error ((state.write 2 (state.name ++ words.toList)).withStatus Builtin.usage)
    | script :: rest =>
        let state := state.setSetting "command" true
        return (.text script,
          { state with name := rest.head?.getD state.name, arguments := rest.drop 1 })
  else
    match wish.isInput, rest with
    | false, path :: rest =>
        return (.file path, { state with name := path, arguments := rest, source :=
          if state.isBash then path else [] })
    | _, rest =>
        let state := (state.setSetting "input" true).setSetting "stdin" true
        return (.input, { state with arguments := rest })

/-- Whether a shell takes a variable from the program that starts it. -/
def takesVariable (dialect : Dialect) (name : List Char) : Bool :=
  Words.isWholeName name && name != "IFS".toList && (dialect = .plain || name != ['_'])

/-- Gives a variable a value unless it is set. -/
def setDefault (name value : String) (state : State) : State :=
  if (state.bindings.any fun entry => entry.name = name.toList) then state
  else state.setVariable name.toList value.toList

/-- Sets the variables that the shell with the extensions has from its start. -/
def setUsual (path : List Char) (state : State) : State :=
  let level := ((state.value? "SHLVL".toList).bind toInt?).getD 0 + 1
  let fixed := fun (name : String) (content : Content) (isInteger : Bool) (state : State) =>
    state.modifyVariable name.toList fun entry =>
      { entry with
        content := content, traits := { Traits.none with readonly := true, integer := isInteger } }
  let state := state.setExported "SHLVL".toList (ofInt (max level 0))
  let state := [("PATH", Program.defaultSearch), ("SHELL", "/bin/bash"),
    ("TERM", "dumb"), ("PS4", "+ "), ("OPTERR", "1"), ("HOSTNAME", "localhost"),
    ("HOSTTYPE", "x86_64"), ("MACHTYPE", "x86_64-pc-linux-gnu"),
    ("OSTYPE", "linux-gnu")].foldl
      (fun state entry => setDefault entry.1 entry.2 state) state
  let state := [("BASH", toText path), ("BASH_VERSION", versionName)].foldl
    (fun (state : State) (entry : String × String) =>
      state.setVariable entry.1.toList (ofText entry.2)) state
  let version := State.listContent (versionParts.map String.toList)
  let state := fixed "BASH_VERSINFO" version false state
  let state := fixed "UID" (.single ['0']) true (fixed "EUID" (.single ['0']) true state)
  -- The name of the former directory is there even if there was none.
  state.modifyVariable "OLDPWD".toList fun entry =>
    { entry with traits := { entry.traits with exported := true } }

/-- The path by which a shell knows its working directory. -/
def startPath (state : State) : List Char :=
  let direct := ofText ("/" ++ "/".intercalate state.directory)
  match state.value? "PWD".toList with
  | some path =>
      let isSame : Bool := match state.locate path with
        | .ok names => names == state.directory
        | .error _ => false
      if path.head? = some '/' ∧ isSame then path else direct
  | none => direct

/-- The parts of a shell that another one passes on to the shells that it starts. -/
def inherited (dialect : Dialect) (before : State) : List (List Char × Definition) :=
  if dialect = .bash ∧ before.isBash then
    before.functions.filter fun entry => before.exportedFunctions.contains entry.1
  else []

/-- A shell that another one starts under a name, before it has read its arguments. -/
def newShell (dialect : Dialect) (name : List Char) (before : State) : State :=
  let seen := before.environment.filter fun entry => takesVariable dialect entry.1
  let functions := inherited dialect before
  let number := before.world.nextProcess
  let state : State :=
    { world := { before.world.wait Program.startCost with
        nextProcess := number + 1, current := number }
      dialect := dialect
      directory := before.directory
      path := before.path
      bindings := (seen.map fun entry : List Char × List Char =>
        ⟨entry.1, .single entry.2, { Traits.none with exported := true }⟩).reverse
      functions := functions
      exportedFunctions := functions.map Prod.fst
      name := name
      process := number
      ownProcess := number
      parent := before.ownProcess
      ancestors := before.ownProcess :: before.process :: before.ancestors
      descriptors := before.descriptors
      settings := if dialect = .bash then State.usualSettings else []
      traps := before.traps.filter fun trap => trap.2.isEmpty && trap.1 != "EXIT"
      mask := before.mask
      niceness := before.niceness
      nextIdentity := before.nextIdentity
      seed := number * 7919 + 17
      secondsFrom := before.world.clock / 1000000
      lastArgument := before.program.getD name }
  let state := { state with path := startPath state }
  let state := state.setExported "PWD".toList state.path
  let state := state.setVariable "IFS".toList " \t\n".toList
  let state := setDefault "OPTIND" "1" state
  match dialect with
  | .bash => setUsual (before.program.getD name) state
  | .plain =>
      [("PS1", "# "), ("PS2", "> "), ("PS4", "+ ")].foldl
        (fun state entry => setDefault entry.1 entry.2 state) state

end Startup
end Shell
end Snippets
