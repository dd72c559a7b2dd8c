import Snippets.Shell.Builtin.Directory
import Snippets.Shell.Builtin.Input
import Snippets.Shell.Builtin.Leaving
import Snippets.Shell.Builtin.Output
import Snippets.Shell.Builtin.Settings
import Snippets.Shell.Builtin.Signals

/-!
# Commands of the shell by name

The commands that a shell has itself.  Those that run other commands are known here by
their names only.
-/

namespace Snippets
namespace Shell
namespace Builtin

/-- The commands that every shell has. -/
def commonTable : List (String × Builtin) :=
  [(":", constant 0), ("true", constant 0), ("false", constant 1), ("echo", echo),
   ("printf", printf), ("cd", cd), ("pwd", pwd), ("unset", unset), ("shift", shift), ("set", set),
   ("exit", exit), ("return", leave), ("break", leaveLoops "break" Flow.stop),
   ("continue", leaveLoops "continue" Flow.again), ("read", read), ("test", test "test"),
   ("[", test "["), ("trap", trap), ("kill", kill), ("wait", wait), ("umask", umask),
   ("times", times), ("ulimit", ulimit), ("alias", alias_), ("unalias", unalias),
   ("jobs", jobs), ("getopts", getopts), ("fg", control "fg"), ("bg", control "bg")]

/-- Turns commands of the shell off and on, or prints those that are on. -/
def enable (names : List String) : Builtin := ofWords fun arguments state =>
  withLetters "enable" "adnpsf:" arguments state fun given rest =>
    let isOff := fun name : String => state.has ("without " ++ name)
    if rest.isEmpty then
      let sorted := names.mergeSort fun first second => decide (first ≤ second)
      let chosen := sorted.filter fun name =>
        isGiven 'a' given || (isOff name == isGiven 'n' given)
      print (chosen.flatMap fun name =>
        (if isOff name then "enable -n " else "enable ").toList ++ name.toList ++ ['\n']) state
    else
      rest.foldl
        (fun (result : Flow × State) text =>
          let state := result.2
          let name := toText text
          if names.contains name then
            (.next, state.setSetting ("without " ++ name) (isGiven 'n' given))
          else (.next, state.fail ("enable: " ++ name ++ ": not a shell builtin") 1))
        (.next, state.withStatus 0)

/-- Prints words that start in a given way. -/
def compgen (names : List String) : Builtin := ofWords fun arguments state =>
  withLetters "compgen" "abcdefgjksuvo:A:G:W:F:C:X:P:S:" arguments state fun given rest =>
    let start := rest.head?.getD []
    let action := String.ofList ((valueOf? 'A' given).getD [])
    let isAsked := fun (letter : Char) (name : String) => isGiven letter given || action = name
    let words :=
      (match valueOf? 'W' given with
        | some text => (splitAt ' ' (text.map fun octet =>
            if octet = '\n' ∨ octet = '\t' then ' ' else octet)).filter fun word => !word.isEmpty
        | none => []) ++
      (if isAsked 'v' "variable" then (inNameOrder state.bindings).map Variable.name else []) ++
      (if action = "function" then functionNames state else []) ++
      (if isAsked 'a' "alias" then (aliasesInOrder state).map Prod.fst else []) ++
      (if isAsked 'b' "builtin" then
        (names.mergeSort fun first second => decide (first ≤ second)).map String.toList else []) ++
      (if isAsked 'k' "keyword" then
        (Script.reserved ++ Script.extraReserved).map String.toList else [])
    let found := words.filter fun word => start.isPrefixOf word
    done (if found.isEmpty then 1 else 0) (state.write 1 (unlines found))

/-- The commands that run other commands, or that look for them. -/
def runningNames : Dialect → List String
  | .plain => [".", "command", "eval", "exec", "hash", "type"]
  | .bash => [".", "builtin", "caller", "command", "eval", "exec", "hash", "source", "type"]

/-- The commands of the shell with the extensions alone. -/
def extraTable : List (String × Builtin) :=
  [("let", evaluate), ("declare", declare "declare"), ("typeset", declare "typeset"),
   ("local", declare "local"), ("export", giveTrait "export" 'x'),
   ("readonly", giveTrait "readonly" 'r'), ("shopt", shopt), ("disown", disown),
   ("pushd", pushd), ("popd", popd), ("dirs", dirs), ("mapfile", readLines "mapfile"),
   ("readarray", readLines "readarray"), ("help", help), ("history", constant 0),
   ("fc", constant 0), ("bind", constant 0), ("complete", constant 0), ("compopt", constant 1),
   ("logout", fun _ _ state =>
      refuse "logout" "not login shell: use \x60exit'" 1 state),
   ("suspend", fun _ _ state =>
      refuse "suspend" "cannot suspend: no job control" 1 state)]

/-- The commands of the plain shell alone. -/
def plainTable : List (String × Builtin) :=
  [("export", giveTraitPlainly "export" 'x'), ("readonly", giveTraitPlainly "readonly" 'r'),
   ("local", giveTraitPlainly "local" ' ')]

/-- The names of all commands of a shell. -/
def allNames (dialect : Dialect) : List String :=
  commonTable.map Prod.fst ++ runningNames dialect ++
    match dialect with
    | .plain => plainTable.map Prod.fst
    | .bash => extraTable.map Prod.fst ++ ["enable", "compgen"]

/-- The commands of a shell that do not run others. -/
def table (dialect : Dialect) : List (String × Builtin) :=
  commonTable ++
    match dialect with
    | .plain => plainTable
    | .bash =>
        extraTable ++
          [("enable", enable (allNames .bash)), ("compgen", compgen (allNames .bash))]

/-- The command of a name, unless it has been turned off. -/
def find? (name : List Char) (state : State) : Option Builtin :=
  let name := String.ofList name
  if state.has ("without " ++ name) then none else (table state.dialect).lookup name

/-- Whether a name is that of a command of the shell. -/
def isKnown (name : List Char) (state : State) : Bool :=
  let name := String.ofList name
  !state.has ("without " ++ name) && (allNames state.dialect).contains name

end Builtin
end Shell
end Snippets
