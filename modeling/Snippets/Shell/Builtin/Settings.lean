import Snippets.Shell.Builtin.Declaration
import Snippets.Shell.Mode

/-!
# Settings

Settings are turned on and off by letters and by names.  The arguments of the shell and the
rights of new files are set as well.
-/

namespace Snippets
namespace Shell
namespace Builtin

/-- The names of the settings of a shell, in the order in which they are listed. -/
def listedSettings : Dialect → List String
  | .bash => State.settingNames
  | .plain =>
      ["errexit", "noglob", "ignoreeof", "interactive", "monitor", "noexec", "stdin", "xtrace",
       "verbose", "vi", "emacs", "noclobber", "allexport", "notify", "nounset", "privileged",
       "nolog", "debug"]

/-- A name with spaces after it, up to a width. -/
def column (width : Nat) (name : String) : List Char :=
  padRight width name.toList

/-- All settings and whether they are on, as they are read or as commands that set them. -/
def settingLines (asCommands : Bool) (state : State) : List Char :=
  let line := fun name : String =>
    let on := state.has name
    if asCommands then
      (if on then "set -o " else "set +o ").toList ++ name.toList ++ ['\n']
    else
      let value := if on then "on\n" else "off\n"
      if state.isBash then column 15 name ++ '\t' :: value.toList
      else column 16 name ++ value.toList
  let start := if asCommands ∨ state.isBash then [] else "Current option settings\n".toList
  start ++ (listedSettings state.dialect).flatMap line

/-- Turns a setting on or off by its letter. -/
def setLetter (on : Bool) (letter : Char) (state : State) : Option State :=
  ((State.settingLetters state.dialect).lookup letter).map fun name => state.setSetting name on

/-- Turns a setting on or off by its name. -/
def setName (on : Bool) (name : List Char) (state : State) : Option State :=
  let name := String.ofList name
  if (listedSettings state.dialect).contains name then some (state.setSetting name on) else none

/-- What arguments set: the state, and the other arguments if any take the place of those of
the shell. -/
abbrev Setting := State × Option (List (List Char))

/-- Why settings are refused: a letter or a name is unknown. -/
inductive SettingFault where
  /-- A letter. -/
  | letter (text : List Char)
  /-- A name. -/
  | name (text : List Char)

/-- Sets what arguments say.  The fuel bounds their number. -/
def readSettings : Nat → List (List Char) → State →
    Except (SettingFault × State) Setting
  | 0, rest, state => .ok (state, some rest)
  | _, [], state => .ok (state, none)
  | fuel + 1, argument :: rest, state =>
      match argument with
      | ['-', '-'] => .ok (state, some rest)
      | ['-'] =>
          let state := (state.setSetting "xtrace" false).setSetting "verbose" false
          .ok (state, if rest.isEmpty then none else some rest)
      | sign :: letter :: more =>
          if sign ≠ '-' ∧ sign ≠ '+' then .ok (state, some (argument :: rest))
          else
            let on := sign = '-'
            let rec run : List Char → List (List Char) → State →
                Except (SettingFault × State) (List (List Char) × State)
              | [], rest, state => .ok (rest, state)
              | 'o' :: letters, rest, state =>
                  match rest with
                  | [] => run letters [] (state.write 1 (settingLines (!on) state))
                  | name :: rest =>
                      match setName on name state with
                      | some state => run letters rest state
                      | none => .error (.name name, state)
              | letter :: letters, rest, state =>
                  match setLetter on letter state with
                  | some state => run letters rest state
                  | none => .error (.letter [sign, letter], state)
            match run (letter :: more) rest state with
            | .ok (rest, state) => readSettings fuel rest state
            | .error fault => .error fault
      | _ => .ok (state, some (argument :: rest))

/-- Sets settings and arguments of the shell, or prints all variables. -/
def set : Builtin := ofWords fun arguments state =>
  if arguments.isEmpty then print (variableLines state ++
    if state.isBash ∧ !state.has "posix" then
      (functionNames state).flatMap fun name => functionText name state
    else []) state
  else
    match readSettings (arguments.length + 1) arguments state with
    | .ok (state, none) => done 0 state
    | .ok (state, some rest) => done 0 { state with arguments := rest }
    | .error (.letter text, state) =>
        if state.isBash then
          let state := state.fail ("set: " ++ toText text ++ ": invalid option") usage
          (.next, state.write 2 (usageLine "set"))
        else refuse "set" ("Illegal option " ++ toText text) usage state
    | .error (.name text, state) =>
        refuseBy "set" (toText text ++ ": invalid option name")
          ("Illegal option -o " ++ toText text) usage state

/-- Turns further settings on or off, or prints them. -/
def shopt : Builtin := ofWords fun arguments state =>
  withLetters "shopt" "supqo" arguments state fun given names =>
    let isOld := isGiven 'o' given
    let all := if isOld then State.settingNames else State.optionNames
    let sets := isGiven 's' given
    let unsets := isGiven 'u' given
    let isQuiet := isGiven 'q' given
    let line := fun (state : State) (name : String) =>
      let on := state.has name
      if isGiven 'p' given then
        (if isOld then (if on then "set -o " else "set +o ")
          else (if on then "shopt -s " else "shopt -u ")).toList ++ name.toList ++ ['\n']
      else column 15 name ++ '\t' :: (if on then "on\n" else "off\n").toList
    if sets ∧ unsets then
      refuse "shopt" "cannot set and unset shell options simultaneously" 1 state
    else if names.isEmpty then
      let chosen := all.filter fun name =>
        if sets then state.has name else if unsets then !state.has name else true
      if isQuiet then done 0 state else print (chosen.flatMap (line state)) state
    else
      names.foldl
        (fun (result : Flow × State) text =>
          let state := result.2
          let name := String.ofList text
          if !all.contains name then
            let words := if isOld then "invalid option name" else "invalid shell option name"
            (.next, state.fail ("shopt: " ++ toText text ++ ": " ++ words) 1)
          else if sets ∨ unsets then (.next, state.setSetting name sets)
          else
            let state := if isQuiet then state else state.write 1 (line state name)
            (.next, if state.has name then state else state.withStatus 1))
        (.next, state.withStatus 0)

/-- Drops arguments of the shell. -/
def shift : Builtin := ofWords fun arguments state =>
  let arguments := if arguments.head? = some "--".toList then arguments.drop 1 else arguments
  let size := state.arguments.length
  match arguments with
  | _ :: _ :: _ => if state.isBash then tooMany "shift" state else drop size arguments state
  | _ => drop size arguments state
where
  /-- Drops as many arguments as the first operand says. -/
  drop (size : Nat) (arguments : List (List Char)) (state : State) : Flow × State :=
    let shown := toText (arguments.head?.getD [])
    match (arguments.head?.map toInt?).getD (some 1) with
    | none =>
        refuseBy "shift" (shown ++ ": numeric argument required") ("Illegal number: " ++ shown)
          1 state
    | some count =>
        if count < 0 then
          refuseBy "shift" (shown ++ ": shift count out of range") ("Illegal number: " ++ shown)
            1 state
        else if count ≤ size then
          done 0 { state with arguments := state.arguments.drop count.toNat }
        else if state.isBash then
          if state.has "shift_verbose" then
            refuse "shift" (shown ++ ": shift count out of range") 1 state
          else done 1 state
        else refuse "shift" "can't shift that many" usage state

/-- Sets the rights that new files do not have, or prints them. -/
def umask : Builtin := ofWords fun arguments state =>
  withLetters "umask" (if state.isBash then "pS" else "S") arguments state fun given rest =>
    let asLetters := isGiven 'S' given
    match rest with
    | [] =>
        let value := if asLetters then Mode.maskLetters state.mask else Mode.octal 4 state.mask
        let start := if isGiven 'p' given then
            (if asLetters then "umask -S " else "umask ").toList else []
        print (start ++ value ++ ['\n']) state
    | text :: _ =>
        let finish := fun mask : Nat =>
          let state := { state with mask := mask }
          if asLetters ∧ state.isBash then print (Mode.maskLetters mask ++ ['\n']) state
          else done 0 state
        if (text.head?.map Char.isDigit).getD false then
          if text.all Mode.isOctal ∧ Mode.ofOctal text ≤ 0o777 then finish (Mode.ofOctal text)
          else
            refuseBy "umask" (toText text ++ ": octal number out of range")
              ("Illegal number: " ++ toText text) 1 state
        else
          match Mode.Change.ofText? text with
          | some (.steps actions) =>
              let actions := actions.map fun action : Mode.Action =>
                if action.whose = 0 then { action with whose := Mode.all } else action
              let allowed := (Mode.Change.steps actions).apply 0 false
                (Mode.without 0o777 state.mask)
              finish (Mode.without 0o777 allowed)
          | _ =>
              let known := "ugoa+-=rwxXst,".toList
              let wrong := (text.find? fun octet => !known.contains octet).getD '+'
              let what := if (text.takeWhile fun octet => "ugoa".toList.contains octet).length <
                  text.length ∧ text.any fun octet => "+-=".toList.contains octet then
                "character" else "operator"
              refuseBy "umask"
                (shown [wrong] ++ ": invalid symbolic mode " ++ what)
                ("Illegal mode: " ++ toText text) 1 state

/-- Limits of resources: a letter, what it limits, and the limit. -/
def limits : List (Char × String × String) :=
  [('R', "real-time non-blocking time  (microseconds, -R)", "unlimited"),
   ('c', "core file size              (blocks, -c)", "0"),
   ('d', "data seg size               (kbytes, -d)", "unlimited"),
   ('e', "scheduling priority                 (-e)", "0"),
   ('f', "file size                   (blocks, -f)", "unlimited"),
   ('i', "pending signals                     (-i)", "128620"),
   ('l', "max locked memory           (kbytes, -l)", "8192"),
   ('m', "max memory size             (kbytes, -m)", "unlimited"),
   ('n', "open files                          (-n)", "1048576"),
   ('p', "pipe size                (512 bytes, -p)", "8"),
   ('q', "POSIX message queues         (bytes, -q)", "819200"),
   ('r', "real-time priority                  (-r)", "0"),
   ('s', "stack size                  (kbytes, -s)", "8192"),
   ('t', "cpu time                   (seconds, -t)", "unlimited"),
   ('u', "max user processes                  (-u)", "unlimited"),
   ('v', "virtual memory              (kbytes, -v)", "unlimited"),
   ('x', "file locks                          (-x)", "unlimited")]

/-- Prints limits of resources. -/
def ulimit : Builtin := ofWords fun arguments state =>
  let forms := if state.isBash then "SHaRcdefilmnpqrstuvx" else "HSatfdscmlpnvwr"
  withLetters "ulimit" forms arguments state fun given rest =>
    let letters := (given.map Prod.fst).filter fun letter => letter != 'S' && letter != 'H'
    if !rest.isEmpty then done 0 state
    else if letters.contains 'a' then
      print (limits.flatMap fun limit =>
        limit.2.1.toList ++ ' ' :: limit.2.2.toList ++ ['\n']) state
    else
      let letters := if letters.isEmpty then ['f'] else letters
      print (letters.flatMap fun letter =>
        ((limits.lookup letter).map fun limit =>
          (if 1 < letters.length then limit.1.toList ++ [' '] else []) ++ limit.2.toList ++
            ['\n']).getD []) state

end Builtin
end Shell
end Snippets
