import Snippets.Shell.Runner.Basic
import Snippets.Shell.Signal

/-!
# Commands in other surroundings

These programs run one command with other variables, in another directory, for a limited
time, or with other descriptors.
-/

namespace Snippets
namespace Shell
namespace Runner

/-- The words of a text that is split at spaces, with quotes around words that have some. -/
def splitWords : Nat → List Char → Option (List Char) → List (List Char)
  | 0, _, current => current.toList.map List.reverse
  | _, [], current => current.toList.map List.reverse
  | fuel + 1, octet :: rest, current =>
      if octet = ' ' ∨ octet = '\t' ∨ octet = '\n' then
        (current.toList.map List.reverse) ++ splitWords fuel rest none
      else if octet = '\'' ∨ octet = '"' then
        let inside := rest.takeWhile (· != octet)
        splitWords fuel (rest.drop (inside.length + 1))
          (some (inside.reverse ++ current.getD []))
      else if octet = '\\' then
        splitWords fuel (rest.drop 1) (some (rest.head?.toList ++ current.getD []))
      else splitWords fuel rest (some (octet :: current.getD []))

/-- Whether an argument gives a value to a variable. -/
def isSetting (argument : List Char) : Bool :=
  argument.contains '='

/-- Runs a command with other variables, or prints the variables. -/
def env (fuel : Nat) : Runner := fun run name arguments state =>
  match fuel with
  | 0 => done 125 state
  | fuel + 1 =>
      withOptions ["i ignore-environment", "u=unset", "0 null", "C=chdir", "S=split-string",
        "v debug", "a=argv0", "b?block-signal"] 125 name arguments state fun options =>
        match options.value? 'S' with
        | some text =>
            let others := options.given.filter fun entry => entry.1 != 'S'
            let flags := others.flatMap fun entry =>
              if entry.2.isEmpty then [['-', entry.1]] else [['-', entry.1], entry.2]
            env fuel run name
              (flags ++ splitWords (text.length + 1) text none ++ options.operands) state
        | none =>
            let startsEmpty := options.has 'i' || options.operands.head? = some ['-']
            let operands := if options.operands.head? = some ['-'] then options.operands.drop 1
              else options.operands
            let inner := state.asProgram
            let inner := if startsEmpty then { inner with bindings := [], exportedFunctions := [] }
              else inner
            let removed := options.valuesOf 'u'
            let wrong := removed.find? fun text => text.isEmpty || text.contains '='
            let inner := removed.foldl (fun inner text => inner.unset text) inner
            let settings := operands.takeWhile isSetting
            let inner := settings.foldl
              (fun inner argument =>
                let key := argument.takeWhile (· != '=')
                inner.setExported key (argument.drop (key.length + 1)))
              inner
            let command := operands.drop settings.length
            let placed : Except LookupFailure State := match options.value? 'C' with
              | none => .ok inner
              | some path =>
                  match inner.locate path with
                  | .ok names =>
                      if (inner.world.tree.node? names).any FileNode.isDirectory then
                        .ok { inner with
                          directory := names, path := ofText ("/" ++ "/".intercalate names) }
                      else .error .notDirectory
                  | .error failure => .error failure
            match wrong, placed with
            | some text, _ =>
                fail name ("cannot unset " ++ curly text ++ ": Invalid argument") 125 state
            | none, .error failure =>
                fail name ("cannot change directory to " ++
                  curly ((options.value? 'C').getD []) ++ ": " ++ lookupMessage failure) 125 state
            | none, .ok inner =>
                match command with
                | [] =>
                    let ending := if options.has '0' then '\x00' else '\n'
                    let text := inner.environment.flatMap fun entry =>
                      entry.1 ++ '=' :: entry.2 ++ [ending]
                    settled name [] (fun invocation => invocation.print text) state
                | first :: _ =>
                    let (flow, after) := start run command (namedFault name first) inner
                    (flow, { state with
                      world := after.world, status := after.status, signal := after.signal })

/-- How a program that limits the time ends the command. -/
structure TimeLimit where
  /-- The microseconds after which it is ended. -/
  microseconds : Nat
  /-- The signal. -/
  signal : Nat
  /-- Whether the status is that of the command. -/
  keepsStatus : Bool
  /-- The microseconds after which it is killed. -/
  more : Option Nat
  /-- Whether signals are told. -/
  isLoud : Bool

/-- Runs a command and ends it when its time is over. -/
def limited (run : Start) (name : List Char) (limit : TimeLimit) (words : List (List Char))
    (state : State) : Flow × State :=
  let command := words.head?.getD []
  let begun := state.world.clock
  let outer := state.world.deadline
  let mine := begun + limit.microseconds
  let isUnlimited := limit.microseconds = 0
  let deadline := if isUnlimited then outer else some (outer.elim mine (min mine))
  let (flow, after) := start run words (failedToRun name command)
    (state.modifyWorld fun world => { world with deadline := deadline })
  let isOver := !isUnlimited && decide (mine ≤ after.world.clock)
  let after := after.modifyWorld fun world => { world with deadline := outer }
  if !isOver then (flow, after)
  else
    -- Nothing that the command would have done after its end has happened.
    let after := after.modifyWorld fun world => { world with clock := mine }
    let shortName := match Signal.name? limit.signal with
      | some name => name
      | none => toString limit.signal
    let after := if limit.isLoud then
        after.write 2 (name ++ ofText (": sending signal " ++ shortName ++ " to command " ++
          curly command ++ "\n"))
      else after
    let flow := if after.world.isLate then flow else Flow.next
    if limit.signal = 9 then (flow, { after.withStatus 137 with signal := some 9 })
    else if limit.keepsStatus then
      (flow, { after.withStatus (128 + limit.signal) with signal := none })
    else (flow, { after.withStatus 124 with signal := none })

/-- Runs a command for a limited time. -/
def timeout : Runner := fun run name arguments state =>
  withOptions ["s=signal", "k=kill-after", "v verbose", "F-foreground", "P-preserve-status"] 125
    name arguments state fun options =>
    let signal := (options.value? 's').map fun text => (text, Signal.ofText? true text)
    let more := (options.value? 'k').map fun text => (text, Surroundings.duration? text)
    match signal, more, options.operands with
    | some (text, none), _, _ => misused name (curly text ++ ": invalid signal") 125 state
    | _, some (text, none), _ =>
        misused name ("invalid time interval " ++ curly text) 125 state
    | signal, more, text :: words =>
        match Surroundings.duration? text, words with
        | none, _ =>
            if words.isEmpty then misused name "" 125 state
            else misused name ("invalid time interval " ++ curly text) 125 state
        | some _, [] => misused name "" 125 state
        | some limit, words =>
            limited run name
              ⟨limit, (signal.bind Prod.snd).getD 15, options.has 'P', more.bind Prod.snd,
                options.has 'v'⟩
              words state
    | _, _, [] => misused name "" 125 state

/-- Runs a command that is less nice to others, or prints how nice it would be. -/
def nice : Runner := fun run name arguments state =>
  -- A number with a sign stands for an adjustment.
  let arguments := match arguments with
    | ('-' :: sign :: digits) :: rest =>
        let isOld := (sign :: digits).all Char.isDigit ||
          ((sign = '-' || sign = '+') && !digits.isEmpty && digits.all Char.isDigit)
        if isOld then "-n".toList :: (sign :: digits) :: rest else arguments
    | arguments => arguments
  withOptions ["n=adjustment"] 125 name arguments state fun options =>
    let given := options.value? 'n'
    let before := state.niceness
    match given.map fun text => (text, toInt? text) with
    | some (text, none) => fail name ("invalid adjustment " ++ curly text) 125 state
    | adjustment =>
        match options.operands with
        | [] =>
            if given.isSome then
              misused name "a command must be given with an adjustment" 125 state
            else settled name [] (fun invocation => invocation.print (ofInt before ++ ['\n'])) state
        | first :: _ =>
            let step := (adjustment.bind Prod.snd).getD 10
            let after := max (-20) (min 19 (before + step))
            let (flow, state) := start run options.operands (namedFault name first)
              { state with niceness := after }
            (flow, { state with niceness := before })

/-- Runs a command that does not end with its terminal. -/
def nohup : Runner := fun run name arguments state =>
  withOptions [] 125 name arguments state fun options =>
    match options.operands with
    | [] => misused name "missing operand" 125 state
    | first :: _ => start run options.operands (failedToRun name first) state

/-- Runs a command in a session of its own. -/
def setsid : Runner := fun run name arguments state =>
  withOptions ["c ctty", "f fork", "w wait"] 1 name arguments state fun options =>
    match options.operands with
    | [] => misused name "no command specified" 1 state
    | first :: _ =>
        start run options.operands
          (fun fault => name ++ ": failed to execute ".toList ++ first ++
            ofText (": " ++ fault ++ "\n"))
          state

/-- Runs a command with other buffers. -/
def stdbuf : Runner := fun run name arguments state =>
  withOptions ["i=input", "o=output", "e=error"] 125 name arguments state fun options =>
    let isMode := fun mode : List Char =>
      mode = ['L'] || (mode.takeWhile Char.isDigit).length > 0
    match options.given.find? fun entry => !isMode entry.2, options.operands with
    | some (_, mode), _ => fail name ("invalid mode " ++ curly mode) 125 state
    | none, [] => misused name "missing operand" 125 state
    | none, first :: _ =>
        if options.given.isEmpty then
          misused name "you must specify a buffering mode option" 125 state
        else start run options.operands (failedToRun name first) state

/-- Prints where programs are found. -/
def which : Runner := fun _ _ arguments state =>
  let flags := (arguments.takeWhile fun argument =>
    argument.head? = some '-' && argument.length > 1).flatMap (List.drop 1)
  let names := arguments.dropWhile fun argument =>
    argument.head? = some '-' && argument.length > 1
  match flags.find? fun letter => letter != 'a' && letter != 's' with
  | some letter =>
      done 2 (state.write 2 (ofText ("Illegal option -" ++ toText [letter] ++
        "\nUsage: /usr/bin/which [-as] args\n")))
  | none =>
      let search := Program.searchOf state
      let found := fun name : List Char =>
        if name.contains '/' then
          match Program.atPath state.world.tree state.directory name with
          | .file _ => [name]
          | _ => []
        else
          ((Program.candidates state.world.tree state.directory search name).filter fun entry =>
            entry.2.isFile).map Prod.fst
      let lines := names.flatMap fun name =>
        if flags.contains 'a' then found name else (found name).take 1
      let status := if names.isEmpty ∨ names.any fun name => (found name).isEmpty then 1 else 0
      done status ((if flags.contains 's' then state else state.write 1 (unlines lines)).wait
        Program.startCost)

end Runner
end Shell
end Snippets
