import Snippets.Shell.Expansion
import Snippets.Shell.Program

/-!
# Commands of the shell itself

A command of the shell is given its operands and changes the state of the shell.  It
answers how the script goes on.
-/

namespace Snippets
namespace Shell

/-- A word of a command after its expansion, or a value for a name. -/
inductive Operand where
  /-- A word. -/
  | word (text : List Char)
  /-- A text for a name, or for the element of a subscript. -/
  | value (name : List Char) (subscript : Option (List Char)) (append : Bool)
      (text : List Char)
  /-- A list of values for a name. -/
  | list (name : List Char) (append : Bool) (elements : List Element)

/-- An operand as a word. -/
def Operand.text : Operand → List Char
  | word text => text
  | value name subscript append text =>
      name ++ (match subscript with
        | some key => '[' :: key ++ [']']
        | none => []) ++ (if append then ['+', '='] else ['=']) ++ text
  | list name append _ => name ++ (if append then ['+', '='] else ['='])

/-- A command of the shell itself. -/
abbrev Builtin := Expansion.Running → List Operand → State → Flow × State

namespace Builtin

/-- A command that takes all of its operands as words. -/
def ofWords (run : List (List Char) → State → Flow × State) : Builtin :=
  fun _ operands state => run (operands.map Operand.text) state

/-- Goes on with a status. -/
def done (status : Nat) (state : State) : Flow × State :=
  (.next, state.withStatus status)

/-- The status of a wrong use of a command. -/
def usage : Nat := 2

/-- The commands of a plain shell whose failure ends a script. -/
def specialNames : List String :=
  [":", ".", "break", "continue", "eval", "exec", "exit", "export", "local", "readonly", "return",
   "set", "shift", "times", "trap", "unset"]

/-- How a script goes on after a word that has no expansion. -/
def stopped (halt : Expansion.Halt) : Flow × State :=
  let (stop, state) := halt
  match state.dialect, stop with
  | .plain, _ => (.exit, state.withStatus usage)
  | .bash, .command => (.abandon, state.withStatus 1)
  | .bash, .script =>
      -- Only the script of a command line has a status of its own for this.
      let status := if state.has "command" ∧ state.depth = 0 then 127 else 1
      (.exit, state.withStatus status)

/-- How the script goes on when a command has failed. -/
def flowOfFailure (name : String) (state : State) : Flow :=
  if !state.isBash ∧ specialNames.contains name ∧ !state.has "guarded" then .exit else .next

/-- Complains about a command.  The plain shell has one status for all failures. -/
def refuse (name message : String) (status : Nat) (state : State) : Flow × State :=
  (flowOfFailure name state,
    state.fail (name ++ ": " ++ message) (if state.isBash then status else usage))

/-- Complains in the words of either shell. -/
def refuseBy (name bash plain : String) (status : Nat) (state : State) : Flow × State :=
  refuse name (if state.isBash then bash else plain) status state

/-- Complains about too many operands, which ends the line, or the whole script of a command
line. -/
def tooMany (name : String) (state : State) : Flow × State :=
  let flow := if state.has "command" ∨ 0 < state.depth then Flow.exit else .abandon
  (flow, state.fail (name ++ ": too many arguments") 1)

/-- Prints and succeeds. -/
def print (octets : List Char) (state : State) : Flow × State :=
  done 0 (state.write 1 octets)

/-- Prints, and complains if the output takes nothing. -/
def printBy (name : String) (octets : List Char) (status : Nat) (state : State) :
    Flow × State :=
  match octets.isEmpty, Program.writeTrouble? 1 state with
  | false, some trouble =>
      let words := if state.isBash then name ++ ": write error: " ++ trouble
        else name ++ ": " ++ name ++ ": I/O error"
      (.next, state.fail words 1)
  | _, _ =>
      let state := (state.write 1 octets).withStatus status
      if state.isOutputFull then (.ended 13, state) else (.next, state)

/-- How the commands of a shell are used. -/
def usageOf (name : String) : String :=
  match name with
  | "alias" => "alias [-p] [name[=value] ... ]"
  | "builtin" => "builtin [shell-builtin [arg ...]]"
  | "caller" => "caller [expr]"
  | "cd" => "cd [-L|[-P [-e]] [-@]] [dir]"
  | "command" => "command [-pVv] command [arg ...]"
  | "declare" =>
      "declare [-aAfFgiIlnrtux] [name[=value] ...] or declare -p [-aAfFilnrtux] [name ...]"
  | "typeset" =>
      "typeset [-aAfFgiIlnrtux] name[=value] ... or typeset -p [-aAfFilnrtux] [name ...]"
  | "local" => "local [option] name[=value] ..."
  | "dirs" => "dirs [-clpv] [+N] [-N]"
  | "disown" => "disown [-h] [-ar] [jobspec ... | pid ...]"
  | "enable" => "enable [-a] [-dnps] [-f filename] [name ...]"
  | "exec" => "exec [-cl] [-a name] [command [argument ...]] [redirection ...]"
  | "export" => "export [-fn] [name[=value] ...] or export -p"
  | "getopts" => "getopts optstring name [arg ...]"
  | "hash" => "hash [-lr] [-p pathname] [-dt] [name ...]"
  | "jobs" => "jobs [-lnprs] [jobspec ...] or jobs -x command [args]"
  | "kill" =>
      "kill [-s sigspec | -n signum | -sigspec] pid | jobspec ... or kill -l [sigspec]"
  | "mapfile" =>
      "mapfile [-d delim] [-n count] [-O origin] [-s count] [-t] [-u fd] [-C callback] " ++
        "[-c quantum] [array]"
  | "readarray" =>
      "readarray [-d delim] [-n count] [-O origin] [-s count] [-t] [-u fd] [-C callback] " ++
        "[-c quantum] [array]"
  | "popd" => "popd [-n] [+N | -N]"
  | "printf" => "printf [-v var] format [arguments]"
  | "pushd" => "pushd [-n] [+N | -N | dir]"
  | "pwd" => "pwd [-LP]"
  | "read" =>
      "read [-ers] [-a array] [-d delim] [-i text] [-n nchars] [-N nchars] [-p prompt] " ++
        "[-t timeout] [-u fd] [name ...]"
  | "readonly" => "readonly [-aAf] [name[=value] ...] or readonly -p"
  | "set" => "set [-abefhkmnptuvxBCEHPT] [-o option-name] [--] [-] [arg ...]"
  | "shopt" => "shopt [-pqsu] [-o] [optname ...]"
  | "source" => "source filename [arguments]"
  | "." => ". filename [arguments]"
  | "trap" => "trap [-lp] [[arg] signal_spec ...]"
  | "type" => "type [-afptP] name [name ...]"
  | "ulimit" => "ulimit [-SHabcdefiklmnpqrstuvxPRT] [limit]"
  | "umask" => "umask [-p] [-S] [mode]"
  | "unalias" => "unalias [-a] name [name ...]"
  | "unset" => "unset [-f] [-v] [-n] [name ...]"
  | "wait" => "wait [-fn] [-p var] [id ...]"
  | name => name

/-- The line that tells how a command is used. -/
def usageLine (name : String) : List Char :=
  ofText (name ++ ": usage: " ++ usageOf name ++ "\n")

/-- Tells how a command is used, without anything else. -/
def misused (name : String) (state : State) : Flow × State :=
  done usage (state.write 2 (usageLine name))

/-- Why options cannot be read. -/
inductive Trouble where
  /-- There is no such letter. -/
  | unknown (letter : Char)
  /-- A letter has no value. -/
  | alone (letter : Char)

/-- The letters that arguments start with, with their values, and the other arguments.  A letter
before a colon has a value. -/
def letters (forms : String) :
    List (List Char) → Except Trouble (List (Char × List Char) × List (List Char))
  | [] => .ok ([], [])
  | ['-', '-'] :: rest => .ok ([], rest)
  | ('-' :: first :: more) :: rest =>
      let rec read (found : List (Char × List Char)) :
          List Char → Except Trouble (List (Char × List Char) × Option Char)
        | [] => .ok (found.reverse, none)
        | letter :: after =>
            match forms.toList.dropWhile fun form => form != letter || form = ':' with
            | [] => .error (.unknown letter)
            | _ :: ':' :: _ =>
                if after.isEmpty then .ok (found.reverse, some letter)
                else .ok (((letter, after) :: found).reverse, none)
            | _ => read ((letter, []) :: found) after
      match read [] (first :: more) with
      | .error trouble => .error trouble
      | .ok (found, none) =>
          (letters forms rest).map fun others => (found ++ others.1, others.2)
      | .ok (found, some letter) =>
          match rest with
          | [] => .error (.alone letter)
          | value :: rest =>
              (letters forms rest).map fun others =>
                (found ++ (letter, value) :: others.1, others.2)
  | rest => .ok ([], rest)

/-- Complains about options. -/
def refuseOptions (name : String) (trouble : Trouble) (state : State) : Flow × State :=
  match trouble with
  | .unknown letter =>
      let shown := toText [letter]
      if state.isBash then
        let state := state.fail (name ++ ": -" ++ shown ++ ": invalid option") usage
        (.next, state.write 2 (usageLine name))
      else refuse name ("Illegal option -" ++ shown) usage state
  | .alone letter =>
      let shown := toText [letter]
      if state.isBash then
        let state := state.fail (name ++ ": -" ++ shown ++ ": option requires an argument") usage
        (.next, state.write 2 (usageLine name))
      else refuse name ("No arg for -" ++ shown ++ " option") usage state

/-- A command that reads the letters of its options first. -/
def withLetters (name forms : String) (arguments : List (List Char)) (state : State)
    (run : List (Char × List Char) → List (List Char) → Flow × State) : Flow × State :=
  match letters forms arguments with
  | .error trouble => refuseOptions name trouble state
  | .ok (given, rest) => run given rest

/-- Whether a letter is among those given. -/
def isGiven (letter : Char) (given : List (Char × List Char)) : Bool :=
  given.any fun entry => entry.1 = letter

/-- The value of the letter that was given last. -/
def valueOf? (letter : Char) (given : List (Char × List Char)) : Option (List Char) :=
  (given.reverse.find? fun entry => entry.1 = letter).map Prod.snd

/-- A text in the quotes of messages. -/
def shown (text : List Char) : String :=
  "\x60" ++ toText text ++ "'"

/-- Complains about a name that is none. -/
def wrongName (name : String) (text : List Char) (state : State) : Flow × State :=
  refuseBy name (shown text ++ ": not a valid identifier") (toText text ++ ": bad variable name")
    1 state

/-- Gives a text to a variable, or complains about it. -/
def give (command : String) (target : List Char) (subscript : Option (List Char))
    (value : List Char) (state : State) : Except State State :=
  let isReadonly := (state.binding? (state.resolve target).1).any fun entry =>
    entry.traits.readonly
  if !state.isBash ∧ isReadonly then
    .error (state.fail (command ++ ": " ++ toText target ++ ": is read only") usage)
  else
    match Expansion.assign target subscript false value state with
    | .ok ((), state) => .ok state
    | .error (_, state) => .error (state.withStatus 1)

/-- The name and the subscript of an element that a text names, unless it names none. -/
def target? (running : Expansion.Running) (text : List Char) (state : State) :
    Option ((List Char × Option (List Char)) × State) :=
  let (name, subscript) := Expansion.splitName text
  if !Words.isWholeName name then none
  else
    match subscript with
    | none => some ((name, none), state)
    | some key =>
        match Expansion.keyOf (Expansion.textPieces running) name key state with
        | .ok (key, state) => some ((name, some key), state)
        | .error _ => none

/-- Gives texts to variables one after the other. -/
def giveAll (command : String) (pairs : List (List Char × List Char)) (state : State) :
    Except State State :=
  pairs.foldl (fun state pair => state.bind (give command pair.1 none pair.2)) (.ok state)

/-- Goes on with the state that giving a value has left. -/
def settled (status : Nat) : Except State State → Flow × State
  | .ok state => done status state
  | .error state => (.next, state)

end Builtin
end Shell
end Snippets
