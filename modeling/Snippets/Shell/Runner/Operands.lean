import Snippets.Shell.Runner.Basic

/-!
# Commands with operands from the input

The words or lines of the input become the last arguments of commands, or take the place of
a mark in their arguments.
-/

namespace Snippets
namespace Shell
namespace Runner

/-- What is read from the input as one operand, and whether it is the last one of its line. -/
abbrev InputItem := List Char × Bool

/-- Why items cannot be read. -/
inductive ItemFault where
  /-- A quote is not closed. -/
  | unmatched (isDouble : Bool)

/-- Reads words between blank characters, with quotes and backslashes. -/
def wordItems : Nat → List Char → Option (List Char) → List InputItem →
    Except ItemFault (List InputItem)
  | 0, _, _, found => .ok found.reverse
  | fuel + 1, rest, current, found =>
      let close := fun isLast : Bool =>
        match current with
        | some word => (word.reverse, isLast) :: found
        | none =>
            -- A line that ends in a blank goes on with the next one.
            found
      match rest with
      | [] => .ok (close true).reverse
      | '\n' :: rest =>
          let found := match current with
            | some word => (word.reverse, true) :: found
            | none => found
          wordItems fuel rest none found
      | '\\' :: octet :: rest =>
          wordItems fuel rest (some (octet :: current.getD [])) found
      | ['\\'] => wordItems fuel [] current found
      | octet :: rest =>
          if octet = ' ' ∨ octet = '\t' then wordItems fuel rest none (close false)
          else if octet = '\'' ∨ octet = '"' then
            let inside := rest.takeWhile fun next => next != octet && next != '\n'
            match rest.drop inside.length with
            | next :: after =>
                if next = octet then
                  wordItems fuel after (some (inside.reverse ++ current.getD [])) found
                else .error (.unmatched (octet = '"'))
            | [] => .error (.unmatched (octet = '"'))
          else wordItems fuel rest (some (octet :: current.getD [])) found

/-- Reads lines without the blanks before them, with quotes and backslashes.  Empty lines are
left out. -/
def lineItems : Nat → List Char → Option (List Char) → List InputItem →
    Except ItemFault (List InputItem)
  | 0, _, _, found => .ok found.reverse
  | fuel + 1, rest, current, found =>
      match rest with
      | [] => .ok (match current with
          | some line => (line.reverse, true) :: found
          | none => found).reverse
      | '\n' :: rest =>
          let found := match current with
            | some line => (line.reverse, true) :: found
            | none => found
          lineItems fuel rest none found
      | '\\' :: octet :: rest => lineItems fuel rest (some (octet :: current.getD [])) found
      | octet :: rest =>
          if (octet = ' ' ∨ octet = '\t') ∧ current.isNone then lineItems fuel rest none found
          else if octet = '\'' ∨ octet = '"' then
            let inside := rest.takeWhile fun next => next != octet && next != '\n'
            match rest.drop inside.length with
            | next :: after =>
                if next = octet then
                  lineItems fuel after (some (inside.reverse ++ current.getD [])) found
                else .error (.unmatched (octet = '"'))
            | [] => .error (.unmatched (octet = '"'))
          else lineItems fuel rest (some (octet :: current.getD [])) found

/-- Reads the texts between delimiters. -/
def delimitedItems (delimiter : Char) (text : List Char) : List InputItem :=
  let parts := splitAt delimiter text
  let parts := if parts.getLast? = some [] then parts.dropLast else parts
  parts.map fun part => (part, true)

/-- How items are put together. -/
structure Grouping where
  /-- The greatest number of items of a command. -/
  count : Option Nat
  /-- The greatest number of lines of a command. -/
  lines : Option Nat
  /-- The greatest number of octets of a command. -/
  size : Nat
  /-- The octets that the command itself has. -/
  start : Nat

/-- The items of each command. -/
def grouped (grouping : Grouping) : Nat → List InputItem → List (List Char) → Nat → Nat →
    List (List (List Char))
  | 0, _, current, _, _ => [current.reverse]
  | _, [], current, _, _ => if current.isEmpty then [] else [current.reverse]
  | fuel + 1, (item, isLast) :: rest, current, size, lines =>
      let size := size + item.length + 1
      if !current.isEmpty ∧ grouping.size < size + grouping.start then
        current.reverse :: grouped grouping fuel ((item, isLast) :: rest) [] 0 0
      else
        let current := item :: current
        let lines := if isLast then lines + 1 else lines
        if grouping.count = some current.length ∨ (grouping.lines = some lines ∧ isLast) then
          current.reverse :: grouped grouping fuel rest [] 0 0
        else grouped grouping fuel rest current size lines

/-- A text with another one in place of each mark. -/
def substituted (mark text : List Char) : Nat → List Char → List Char
  | 0, rest => rest
  | _, [] => []
  | fuel + 1, octet :: rest =>
      if mark.isPrefixOf (octet :: rest) ∧ !mark.isEmpty then
        text ++ substituted mark text fuel ((octet :: rest).drop mark.length)
      else octet :: substituted mark text fuel rest

/-- Runs commands one after the other, and makes a status of theirs.  Each of them finds an
empty input. -/
def runEach (run : Start) (name : List Char) (isShown : Bool) :
    List (List (List Char)) → Nat → State → Flow × State
  | [], status, state => done status state
  | words :: rest, status, state =>
      let command := words.head?.getD []
      let before := state
      let state := if isShown then
          state.write 2 ([' '].intercalate (words.map Quoting.asNeeded) ++ ['\n'])
        else state
      match startFault? command state with
      | some (fault, failure) =>
          fail name (toText command ++ ": " ++ fault) failure state
      | none =>
          let (flow, after) := run words (state.setStream 0 .nothing)
          let after := withStreamsOf before after
          match flow, after.signal with
          | .ended signal, _ => (.ended signal, after)
          | _, some signal =>
              fail name (toText command ++ ": terminated by signal " ++ toString signal) 125 after
          | _, none =>
              if after.status = 255 then
                fail name (toText command ++ ": exited with status 255; aborting") 124 after
              else
                runEach run name isShown rest (if after.status = 0 then status else 123) after

/-- Runs commands with operands from the input. -/
def xargs : Runner := fun run name arguments state =>
  withOptions ["0 null", "a=arg-file", "d=delimiter", "E=", "e?eof", "I=", "i?replace", "L=",
    "l?max-lines", "n=max-args", "o open-tty", "P=max-procs", "p interactive",
    "r no-run-if-empty", "s=max-chars", "t verbose", "x exit", "S-show-limits"] 1 name arguments
    state fun options =>
    let number := fun (letter : Char) (least : Nat) =>
      match options.value? letter with
      | none => (.ok none : Except String (Option Nat))
      | some text =>
          let shown := "for -" ++ toText [letter] ++ " option"
          match toInt? text with
          | none => .error ("invalid number \"" ++ toText text ++ "\" " ++ shown)
          | some value =>
              if value < least then
                .error ("value " ++ toText text ++ " " ++ shown ++ " should be >= " ++
                  toString least)
              else .ok (some value.toNat)
    let numbers : Except String (Option Nat × Option Nat × Option Nat) := do
      let count ← number 'n' 1
      let lines ← number 'L' 1
      let size ← number 's' 1
      let _ ← number 'P' 0
      return (count, lines, size)
    match numbers with
    | .error message => misused name message 1 state
    | .ok (count, lines, size) =>
        let lines := lines.orElse fun _ => (options.value? 'l').map fun text =>
          (toNat? text).getD 1
        -- Of a mark and a number of operands the later one counts.
        let mark : Option (List Char) := match options.last? "Iin" with
          | some 'I' => options.value? 'I'
          | some 'i' =>
              let text := (options.value? 'i').getD []
              some (if text.isEmpty then "\x7b\x7d".toList else text)
          | _ => none
        let warned := mark.isSome && options.has 'n'
        let state := if warned then
            state.write 2 (name ++ (": warning: options --max-args and --replace/-I/-i are " ++
              "mutually exclusive, ignoring previous --max-args value\n").toList)
          else state
        let opened : Except String (List Char × State) := match options.value? 'a' with
          | some path =>
              match state.node? path with
              | some (.file content _) => .ok (ofBytes content, state)
              | some (.unreadable failure _) =>
                  .error ("Cannot open input file " ++ curly path ++ ": " ++ failure.words)
              | _ =>
                  if path = "/dev/null".toList then .ok ([], state)
                  else .error ("Cannot open input file " ++ curly path ++
                    ": No such file or directory")
          | none =>
              let state := Program.awaitInput 0 state
              .ok (state.input, state.setInput [])
        match opened with
        | .error message => fail name message 1 state
        | .ok (text, state) =>
            let delimiter := if options.has '0' then some '\x00'
              else (options.value? 'd').map fun text =>
                match text with
                | ['\\', 'n'] => '\n'
                | ['\\', 't'] => '\t'
                | ['\\', '0'] => '\x00'
                | octet :: _ => octet
                | [] => '\x00'
            let read : Except ItemFault (List InputItem) := match delimiter with
              | some delimiter => .ok (delimitedItems delimiter text)
              | none =>
                  if mark.isSome then lineItems (text.length + 1) text none []
                  else wordItems (text.length + 1) text none []
            match read with
            | .error (.unmatched isDouble) =>
                fail name ("unmatched " ++ (if isDouble then "double" else "single") ++
                  " quote; by default quotes are special to xargs unless you use the -0 option")
                  1 state
            | .ok items =>
                let items := match options.value? 'E' with
                  | some ending => if ending.isEmpty then items
                      else items.takeWhile fun item => item.1 != ending
                  | none => items
                let command := if options.operands.isEmpty then ["echo".toList]
                  else options.operands
                let start := (command.map fun word => word.length + 1).foldl (· + ·) 0
                let size := size.getD 131072
                let isShown := options.has 't'
                let state := state.wait Program.startCost
                match mark with
                | some mark =>
                    let commands := items.map fun item : InputItem =>
                      command.map fun word : List Char =>
                        substituted mark item.1 (word.length + 1) word
                    runEach run name isShown commands 0 state
                | none =>
                    let tooLong := items.any fun item => size < start + item.1.length + 1
                    if tooLong then fail name "argument line too long" 1 state
                    else
                      let groups := grouped ⟨count, lines, size, start⟩
                        (2 * items.length + 1) items [] 0 0
                      let groups := if groups.isEmpty ∧ !options.has 'r' then [[]] else groups
                      runEach run name isShown (groups.map fun group => command ++ group) 0 state

end Runner
end Shell
end Snippets
