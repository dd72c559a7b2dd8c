import Snippets.Shell.Builtin.Basic

/-!
# Reading into variables

Lines of the input, and options among arguments, become the values of variables.
-/

namespace Snippets
namespace Shell
namespace Builtin

/-- A character that has been read, and whether a backslash protects it. -/
abbrev ReadCharacter := Char × Bool

/-- Characters that have been read. -/
structure ReadText where
  /-- The characters. -/
  characters : List ReadCharacter
  /-- What follows them. -/
  rest : List Char
  /-- Whether they end where they should. -/
  isWhole : Bool

/-- How characters are read. -/
structure ReadStyle where
  /-- Whether a backslash protects the character after it. -/
  protects : Bool
  /-- The octet at which the text ends, if there is one. -/
  delimiter : Option Char
  /-- The number of characters after which the text ends. -/
  count : Option Nat
  /-- Whether characters may have several octets. -/
  isWide : Bool

/-- Reads characters after those found, which are in reverse and of the given number. -/
def readCharacters (style : ReadStyle) :
    Nat → Nat → List ReadCharacter → List Char → ReadText
  | 0, _, found, rest => ⟨found.reverse, rest, false⟩
  | fuel + 1, number, found, rest =>
      if style.count = some number then ⟨found.reverse, rest, true⟩
      else
        match rest with
        | [] => ⟨found.reverse, [], false⟩
        | octet :: after =>
            let take := fun (isProtected : Bool) (octet : Char) (after : List Char) =>
              if style.isWide then
                let (_, length) := firstCharacter octet after
                let more := after.take (length - 1)
                readCharacters style fuel (number + 1)
                  ((more.map fun octet => (octet, isProtected)).reverse ++
                    (octet, isProtected) :: found)
                  (after.drop (length - 1))
              else readCharacters style fuel (number + 1) ((octet, isProtected) :: found) after
            if octet = '\\' ∧ style.protects then
              match after with
              | [] => ⟨found.reverse, [], false⟩
              | '\n' :: after => readCharacters style fuel number found after
              | octet :: after => take true octet after
            else if style.delimiter = some octet then ⟨found.reverse, after, true⟩
            else if octet = '\x00' then readCharacters style fuel number found after
            else take false octet after

/-- Whether a character separates fields and is blank. -/
def isBlankSeparator (separators : List Char) (read : ReadCharacter) : Bool :=
  !read.2 && separators.contains read.1 && " \t\n".toList.contains read.1

/-- Whether a character separates fields. -/
def isSeparator (separators : List Char) (read : ReadCharacter) : Bool :=
  !read.2 && separators.contains read.1

/-- The first field of characters that start with no blank, and what follows the characters
that separate it. -/
def firstField (separators : List Char) (text : List ReadCharacter) :
    List ReadCharacter × List ReadCharacter :=
  let field := text.takeWhile fun read => !isSeparator separators read
  match text.drop field.length with
  | [] => (field, [])
  | separator :: after =>
      let after := after.dropWhile (isBlankSeparator separators)
      match after with
      | next :: more =>
          if isBlankSeparator separators separator ∧ isSeparator separators next then
            (field, more.dropWhile (isBlankSeparator separators))
          else (field, after)
      | [] => (field, [])

/-- The text for the last name: one field without what ends it, or all that is left. -/
def lastField (separators : List Char) (text : List ReadCharacter) : List ReadCharacter :=
  let (field, after) := firstField separators text
  if after.isEmpty then field
  else (text.reverse.dropWhile (isBlankSeparator separators)).reverse

/-- The fields for a number of names. -/
def fieldsFor (separators : List Char) : Nat → List ReadCharacter → List (List Char)
  | 0, _ => []
  | 1, text => [(lastField separators text).map Prod.fst]
  | count + 1, text =>
      let (field, after) := firstField separators text
      field.map Prod.fst :: fieldsFor separators count after

/-- All fields. -/
def allFields (separators : List Char) : Nat → List ReadCharacter → List (List Char)
  | 0, _ => []
  | _, [] => []
  | fuel + 1, text =>
      let (field, after) := firstField separators text
      field.map Prod.fst :: allFields separators fuel after

/-- Gives texts to the names or elements that words name. -/
def giveTo (running : Expansion.Running) (command : String) (pairs : List (List Char × List Char))
    (state : State) : Except State State :=
  pairs.foldl
    (fun state pair => state.bind fun state =>
      match target? running pair.1 state with
      | some ((name, key), state) => give command name key pair.2 state
      | none => .error (wrongName command pair.1 state).2)
    (.ok state)

/-- How long a command waits for its input, and for which descriptor. -/
structure ReadSource where
  /-- The descriptor. -/
  descriptor : Nat
  /-- The microseconds that it waits. -/
  limit : Option Nat

/-- A shell in which enough has been written to a descriptor, and whether that took too
long. -/
def awaitRead (source : ReadSource) (isEnough : List Char → Bool) (state : State) :
    Bool × State :=
  match state.stream? source.descriptor with
  | some (.buffer number) =>
      let world := state.world
      let limit := source.limit.map fun limit => world.clock + limit
      let (isLate, world) := world.awaitText number isEnough limit (world.later.length + 1)
      (isLate, { state with world := world })
  | _ => (false, state)

/-- Reads a line into variables, in the shell with the extensions. -/
def readInto (running : Expansion.Running) (given : List (Char × List Char))
    (names : List (List Char)) (state : State) : Flow × State :=
  let limit := (valueOf? 't' given).map Surroundings.duration?
  let counted := ((valueOf? 'N' given).orElse fun _ => valueOf? 'n' given).map fun text =>
    (text, toNat? text)
  let descriptor := (valueOf? 'u' given).map fun text => (text, toNat? text)
  let wrong := names.head?.filter fun name =>
    !Words.isWholeName (Expansion.splitName name).1
  match limit, counted, descriptor, wrong with
  | some none, _, _, _ =>
      refuse "read" (toText ((valueOf? 't' given).getD []) ++ ": invalid timeout specification")
        1 state
  | _, some (text, none), _, _ => refuse "read" (toText text ++ ": invalid number") 1 state
  | _, _, some (text, none), _ =>
      refuse "read" (toText text ++ ": invalid file descriptor specification") 1 state
  | _, _, _, some name => wrongName "read" name state
  | limit, counted, descriptor, none =>
      let number := (descriptor.bind Prod.snd).getD 0
      let limit := limit.bind id
      let isExact := isGiven 'N' given
      if (state.stream? number).isNone then
        if descriptor.isSome then
          refuse "read" (toString number ++ ": invalid file descriptor: Bad file descriptor") 1
            state
        else refuse "read" "read error: 0: Bad file descriptor" 1 state
      else if limit = some 0 then done (if (state.inputOf number).isEmpty then 1 else 0) state
      else
        let delimiter := match valueOf? 'd' given with
          | some [] => '\x00'
          | some (octet :: _) => octet
          | none => '\n'
        let count := counted.bind Prod.snd
        let style : ReadStyle :=
          ⟨!isGiven 'r' given, if isExact then none else some delimiter, count, true⟩
        let read := fun text : List Char =>
          readCharacters style (2 * text.length + 2) 0 [] text
        let (isLate, state) := awaitRead ⟨number, limit⟩ (fun text => (read text).isWhole) state
        let found := read (state.inputOf number)
        let state := state.setInputOf number found.rest
        let status := if isLate then 142 else if found.isWhole then 0 else 1
        let separators := Expansion.separators state
        let plain := found.characters.map Prod.fst
        let trimmed := found.characters.dropWhile (isBlankSeparator separators)
        match valueOf? 'a' given with
        | some list =>
            let fields := allFields separators (trimmed.length + 1) trimmed
            let items := fields.map fun field => (⟨none, false, field⟩ : Expansion.Item)
            if !Words.isWholeName list then wrongName "read" list state
            else
              match Expansion.assignItems list false items state with
              | .ok ((), state) => done status state
              | .error (_, state) => done 1 state
        | none =>
            let values :=
              if names.isEmpty then [plain]
              else if isExact then plain :: (names.drop 1).map fun _ => []
              else fieldsFor separators names.length trimmed
            let names := if names.isEmpty then ["REPLY".toList] else names
            settled status (giveTo running "read" (names.zip values) state)

/-- Reads a line into variables. -/
def read : Builtin := fun running operands state =>
  let arguments := operands.map Operand.text
  if state.isBash then
    withLetters "read" "ersa:d:i:n:N:p:t:u:" arguments state fun given names =>
      readInto running given names state
  else
    withLetters "read" "p:r" arguments state fun given names =>
      if names.isEmpty then refuse "read" "arg count" usage state
      else
        match names.find? fun name => !Words.isWholeName name with
        | some name => wrongName "read" name state
        | none =>
            let style : ReadStyle := ⟨!isGiven 'r' given, some '\n', none, false⟩
            let read := fun text : List Char =>
              readCharacters style (2 * text.length + 2) 0 [] text
            let (_, state) := awaitRead ⟨0, none⟩ (fun text => (read text).isWhole) state
            let found := read state.input
            let state := state.setInput found.rest
            let separators := Expansion.separators state
            let trimmed := found.characters.dropWhile (isBlankSeparator separators)
            let pairs := names.zip (fieldsFor separators names.length trimmed)
            settled (if found.isWhole then 0 else 1) (giveAll "read" pairs state)

/-- The parts of a text that end at a delimiter, with it. -/
def records (delimiter : Char) : Nat → List Char → List (List Char)
  | 0, _ => []
  | _, [] => []
  | fuel + 1, text =>
      let record := text.takeWhile (· != delimiter)
      match text.drop record.length with
      | [] => [record]
      | _ :: rest => (record ++ [delimiter]) :: records delimiter fuel rest

/-- Reads lines into the elements of a variable. -/
def readLines (name : String) : Builtin := fun running operands state =>
  let arguments := operands.map Operand.text
  withLetters name "d:n:O:s:tu:C:c:" arguments state fun given names =>
    let wrong := "nOsc".toList.findSome? fun letter =>
      (valueOf? letter given).bind fun text =>
        if (toNat? text).isSome then none
        else
          let words := match letter with
            | 'O' => "invalid array origin"
            | 'c' => "invalid callback quantum"
            | _ => "invalid line count"
          some (toText text ++ ": " ++ words)
    let number := fun letter : Char => (valueOf? letter given).bind toNat?
    let list := names.head?.getD "MAPFILE".toList
    let descriptor := (number 'u').getD 0
    match wrong with
    | some words => refuse name words 1 state
    | none =>
        if !Words.isWholeName list then wrongName name list state
        else if (state.stream? descriptor).isNone then
          refuse name (toString descriptor ++ ": invalid file descriptor: Bad file descriptor") 1
            state
        else
          let state := Program.awaitInput descriptor state
          let text := state.inputOf descriptor
          let delimiter := match valueOf? 'd' given with
            | some [] => '\x00'
            | some (octet :: _) => octet
            | none => '\n'
          let all := records delimiter (text.length + 1) text
          let skipped := (number 's').getD 0
          let limit := match number 'n' with
            | some 0 => all.length
            | some count => count
            | none => all.length
          let chosen := (all.drop skipped).take limit
          let used := ((all.take (skipped + limit)).map List.length).foldl (· + ·) 0
          let state := state.setInputOf descriptor (text.drop used)
          let origin := (number 'O').getD 0
          let keptDelimiter := !isGiven 't' given
          let value := fun record : List Char =>
            let record := if !keptDelimiter ∧ record.getLast? = some delimiter then
                record.dropLast else record
            record.filter (· != '\x00')
          let (target, _) := state.resolve list
          let isLocked := (state.binding? target).any fun entry => entry.traits.readonly
          if isLocked then
            done 1 (state.complain (target ++ ": readonly variable".toList))
          else
            let start := if (number 'O').isSome then .indexed (state.content target).numbered
              else Content.indexed []
            let state := state.setContent target start
            let quantum := (number 'c').getD 5000
            chosen.zipIdx.foldl
              (fun (result : Flow × State) entry =>
                let (flow, state) := result
                if flow ≠ .next then result
                else
                  let index := origin + entry.2
                  let put := fun state : State =>
                    state.setContent target ((state.content target).setAt index (value entry.1))
                  match valueOf? 'C' given with
                  | some callback =>
                      if (entry.2 + 1) % (max quantum 1) = 0 then
                        let script := callback ++ ' ' :: ofNat index ++
                          ' ' :: Quoting.inSingle (value entry.1)
                        let (flow, state) := running.evaluate script state
                        (flow, put state)
                      else (.next, put state)
                  | none => (.next, put state))
              (.next, state.withStatus 0)

/-- An option that has been found among arguments. -/
structure FoundOption where
  /-- The letter. -/
  letter : Char
  /-- Its value. -/
  value : Option (List Char)
  /-- What is said about it. -/
  complaint : Option String
  /-- The number of the next argument, from one on. -/
  next : Nat
  /-- The place in the argument before it at which the next letter is, if there is one. -/
  place : Nat

/-- Finds the next option among arguments, or the number of the first argument that is none.
Letters with values are followed by a colon; one at the start silences complaints. -/
def nextOption (state : State) (forms : List Char) (arguments : List (List Char))
    (index place : Nat) : Except Nat FoundOption :=
  let isBash := state.isBash
  let isSilent := forms.head? = some ':'
  -- One shell counts an argument when its first letter is read, the other after its last one.
  let word? := fun index : Nat => arguments[index - 1]?
  let inWord := if place ≤ 1 then none
    else
      (word? (if isBash then index else index - 1)).bind fun word =>
        if place < word.length then some (word, place) else none
  let start : Except Nat (List Char × Nat × Nat) := match inWord with
    | some (word, place) => .ok (word, place, if isBash then index else index - 1)
    | none =>
        match word? index with
        | some ['-', '-'] => .error (index + 1)
        | some ('-' :: letter :: more) => .ok ('-' :: letter :: more, 1, index)
        | _ => .error index
  match start with
  | .error index => .error index
  | .ok (word, place, index) =>
      let letter := word[place]?.getD '?'
      let isLast := word.length ≤ place + 1
      let after := if isLast ∨ !isBash then index + 1 else index
      let nextPlace := if isLast then 1 else place + 1
      let name := if state.dialect = .bash then toText state.name ++ ": " else ""
      let known := (forms.dropWhile fun form => form != letter)
      if known.isEmpty ∨ letter = ':' then
        let words := if isBash then name ++ "illegal option -- " ++ toText [letter]
          else "Illegal option -" ++ toText [letter]
        .ok ⟨'?', if isSilent then some [letter] else none,
          if isSilent then none else some words, after, nextPlace⟩
      else if known[1]? = some ':' then
        if !isLast then .ok ⟨letter, some (word.drop (place + 1)), none, index + 1, 1⟩
        else
          match word? (index + 1) with
          | some value => .ok ⟨letter, some value, none, index + 2, 1⟩
          | none =>
              let words :=
                if isBash then name ++ "option requires an argument -- " ++ toText [letter]
                else "No arg for -" ++ toText [letter] ++ " option"
              .ok ⟨if isSilent then ':' else '?', if isSilent then some [letter] else none,
                if isSilent then none else some words, index + 1, 1⟩
      else .ok ⟨letter, none, none, after, nextPlace⟩

/-- Reads the next option from arguments. -/
def getopts : Builtin := ofWords fun arguments state =>
  match arguments with
  | forms :: name :: rest =>
      let words := if rest.isEmpty then state.arguments else rest
      let index := max 1 (((state.value? "OPTIND".toList).bind toNat?).getD 1)
      let finish := fun (letter : Char) (status index place : Nat) (state : State) =>
        let state := { state.setVariable "OPTIND".toList (ofNat index) with
          optionPlace := place }
        if Words.isWholeName name then settled status (give "getopts" name none [letter] state)
        else wrongName "getopts" name state
      match nextOption state forms words index state.optionPlace with
      | .error index => finish '?' 1 index 1 (state.unset "OPTARG".toList)
      | .ok found =>
          let isLoud := (state.value? "OPTERR".toList) != some ['0'] || !state.isBash
          let state := match found.complaint with
            | some words => if isLoud then state.write 2 (ofText (words ++ "\n")) else state
            | none => state
          let state := match found.value with
            | some value => state.setVariable "OPTARG".toList value
            | none =>
                if state.isBash ∨ found.complaint.isSome then state.unset "OPTARG".toList
                else state.setVariable "OPTARG".toList []
          finish found.letter 0 found.next found.place state
  | _ =>
      if state.isBash then misused "getopts" state
      else refuse "getopts" "Usage: getopts optstring var [arg...]" usage state

end Builtin
end Shell
end Snippets
