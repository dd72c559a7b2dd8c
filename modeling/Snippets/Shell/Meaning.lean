import Snippets.Shell.Builtin.Table

/-!
# What the names of commands stand for

A name at the start of a command stands for other text, a word of the language, a function,
a command of the shell or a program.
-/

namespace Snippets
namespace Shell

/-- What the name of a command stands for. -/
inductive Meaning where
  /-- Other text. -/
  | alias_ (text : List Char)
  /-- A word of the language. -/
  | keyword
  /-- A function. -/
  | function
  /-- A command of the shell. -/
  | builtin
  /-- A program that has been found before. -/
  | remembered (path : List Char)
  /-- A program. -/
  | program (path : List Char)
  deriving DecidableEq

namespace Meaning

/-- The path of a program that has been found before. -/
def remembered? (name : List Char) (state : State) : Option (List Char) :=
  (state.remembered.find? fun entry => entry.1 = name).map fun entry => entry.2.1

/-- What a name stands for, among what is not a program. -/
def inside? (name : List Char) (state : State) : Option Meaning :=
  let aliases := (state.reading []).aliases
  match aliases.lookup name with
  | some text => some (.alias_ text)
  | none =>
      if Script.isReserved state.dialect name then some .keyword
      else if (state.functions.lookup name).isSome then some .function
      else if Builtin.isKnown name state then some .builtin
      else none

/-- The program that a name stands for. -/
def program? (name : List Char) (state : State) : Option Meaning :=
  match remembered? name state with
  | some path => some (.remembered path)
  | none =>
      match Program.lookup name state with
      | (path, .file _) => some (.program path)
      | _ => none

/-- What a name stands for. -/
def ofName? (name : List Char) (state : State) : Option Meaning :=
  (inside? name state).orElse fun _ => program? name state

/-- The path of a program. -/
def path? : Meaning → Option (List Char)
  | remembered path | program path => some path
  | _ => none

/-- The name itself, or what it stands for, in the form of a command. -/
def short (name : List Char) : Meaning → List Char
  | alias_ text => "alias ".toList ++ name ++ '=' :: Quoting.inSingle text
  | remembered path | program path => path
  | _ => name

/-- The kind of thing that a name stands for. -/
def kind : Meaning → List Char
  | alias_ _ => "alias".toList
  | keyword => "keyword".toList
  | function => "function".toList
  | builtin => "builtin".toList
  | remembered _ | program _ => "file".toList

/-- What a name stands for, in words. -/
def explanation (state : State) (name : List Char) (meaning : Meaning) : List Char :=
  let isBash := state.isBash
  name ++ match meaning with
    | alias_ text =>
        if isBash then " is aliased to \x60".toList ++ text ++ ['\'']
        else " is an alias for ".toList ++ text
    | keyword => " is a shell keyword".toList
    | function =>
        if isBash then
          " is a function\n".toList ++ (Builtin.functionText name state).dropLast
        else " is a shell function".toList
    | builtin =>
        if !isBash ∧ Builtin.specialNames.contains (String.ofList name) then
          " is a special shell builtin".toList
        else " is a shell builtin".toList
    | remembered path =>
        if isBash then " is hashed (".toList ++ path ++ [')']
        else " is a tracked alias for ".toList ++ path
    | program path => " is ".toList ++ path

/-- Everything that a name stands for. -/
def allOf (name : List Char) (state : State) : List Meaning :=
  let aliases := (state.reading []).aliases
  let inner :=
    ((aliases.lookup name).map Meaning.alias_).toList ++
      (if Script.isReserved state.dialect name then [.keyword] else []) ++
      (if (state.functions.lookup name).isSome then [.function] else []) ++
      (if Builtin.isKnown name state then [.builtin] else [])
  let found := Program.candidates state.world.tree state.directory (Program.searchOf state) name
  inner ++ (found.filter fun entry => entry.2.isFile).map fun entry => Meaning.program entry.1

/-- Remembers the path of a program under its name, and that it was used if it was. -/
def remember (name path : List Char) (isUsed : Bool) (state : State) : State :=
  let hits := ((state.remembered.find? fun entry => entry.1 = name).map fun entry =>
    entry.2.2).getD 0
  let others := state.remembered.filter fun entry => entry.1 != name
  { state with remembered := others ++ [(name, path, if isUsed then hits + 1 else 0)] }

end Meaning

namespace Builtin

/-- Prints what names stand for in the plain shell. -/
def typePlainly (names : List (List Char)) (state : State) : Flow × State :=
  names.foldl
    (fun (result : Flow × State) name =>
      let state := result.2
      match Meaning.ofName? name state with
      | some meaning =>
          (.next, state.write 1 (Meaning.explanation state name meaning ++ ['\n']))
      | none => (.next, (state.write 1 (name ++ ": not found\n".toList)).withStatus 127))
    (.next, state.withStatus 0)

/-- Prints what names stand for. -/
def type : Builtin := ofWords fun arguments state =>
  if !state.isBash then typePlainly arguments state
  else
    withLetters "type" "afptP" arguments state fun given names =>
      let isShort := isGiven 't' given
      let isPath := isGiven 'p' given
      let isForced := isGiven 'P' given
      names.foldl
        (fun (result : Flow × State) name =>
          let state := result.2
          let seen := if isGiven 'f' given then unsetFunction name state else state
          let all :=
            if isForced then
              if isGiven 'a' given then
                (Meaning.allOf name seen).filter fun meaning => meaning.path?.isSome
              else (Meaning.program? name seen).toList
            else if isGiven 'a' given then Meaning.allOf name seen
            else (Meaning.ofName? name seen).toList
          let lines := all.filterMap fun meaning =>
            if isShort then some meaning.kind
            else if isPath ∨ isForced then meaning.path?
            else some (Meaning.explanation state name meaning)
          let state := state.write 1 (unlines lines)
          if !all.isEmpty then (.next, state)
          else if isShort ∨ isPath ∨ isForced then (.next, state.withStatus 1)
          else (.next, state.fail ("type: " ++ toText name ++ ": not found") 1))
        (.next, state.withStatus 0)

/-- Prints what names stand for, as commands or in words. -/
def describe (isLong : Bool) (names : List (List Char)) (state : State) : Flow × State :=
  let names := if state.isBash then names else names.take 1
  let known := names.filterMap fun name =>
    (Meaning.ofName? name state).map fun meaning => (name, meaning)
  let line := fun entry : List Char × Meaning =>
    if isLong then Meaning.explanation state entry.1 entry.2
    else
      match state.dialect, entry.2 with
      | .plain, .alias_ text => "alias ".toList ++ entry.1 ++ '=' :: Quoting.inPieces text
      | _, meaning => meaning.short entry.1
  let state := state.write 1 (unlines (known.map line))
  let missing := names.filter fun name => (Meaning.ofName? name state).isNone
  let state := if !isLong then state
    else
      missing.foldl
        (fun state name =>
          if state.isBash then state.complain ("command: ".toList ++ name ++ ": not found".toList)
          else state.write 1 (name ++ ": not found\n".toList))
        state
  let failure := if state.isBash then 1 else 127
  done (if known.isEmpty ∧ !names.isEmpty then failure else 0) state

/-- Prints the paths of programs that have been found, forgets them, or looks for more. -/
def hash : Builtin := ofWords fun arguments state =>
  let find := fun (names : List (List Char)) (state : State) =>
    names.foldl
      (fun (result : Flow × State) name =>
        let state := result.2
        if (state.functions.lookup name).isSome ∨ isKnown name state then (.next, state)
        else
          match Program.lookup name state with
          | (path, .file _) =>
              if name.contains '/' then (.next, state)
              else (.next, Meaning.remember name path false state)
          | _ => (.next, state.fail ("hash: " ++ toText name ++ ": not found") 1))
      (Flow.next, state.withStatus 0)
  if !state.isBash then
    withLetters "hash" "r" arguments state fun given names =>
      if isGiven 'r' given then done 0 { state with remembered := [] }
      else if names.isEmpty then
        print (unlines (state.remembered.map fun entry => entry.2.1)) state
      else find names state
  else
    withLetters "hash" "lrp:dt" arguments state fun given names =>
      let state := if isGiven 'r' given then { state with remembered := [] } else state
      let missing := fun (name : List Char) (state : State) =>
        (Flow.next, state.fail ("hash: " ++ toText name ++ ": not found") 1)
      match valueOf? 'p' given with
      | some path =>
          done 0 (names.foldl (fun state name => Meaning.remember name path false state) state)
      | none =>
          if isGiven 't' given ∨ isGiven 'd' given then
            names.foldl
              (fun (result : Flow × State) name =>
                let state := result.2
                match Meaning.remembered? name state with
                | none => missing name state
                | some path =>
                    if isGiven 'd' given then
                      (.next, { state with
                        remembered := state.remembered.filter fun entry => entry.1 != name })
                    else if 1 < names.length then
                      (.next, state.write 1 (name ++ '\t' :: path ++ ['\n']))
                    else (.next, state.write 1 (path ++ ['\n'])))
              (.next, state.withStatus 0)
          else if isGiven 'l' given then
            print (state.remembered.flatMap fun entry =>
              "builtin hash -p ".toList ++ entry.2.1 ++ ' ' :: entry.1 ++ ['\n']) state
          else if !names.isEmpty then find names state
          else if isGiven 'r' given then done 0 state
          else if state.remembered.isEmpty then print "hash: hash table empty\n".toList state
          else
            print ("hits\tcommand\n".toList ++ state.remembered.flatMap fun entry =>
              padLeft 4 ' ' (ofNat entry.2.2) ++ '\t' :: entry.2.1 ++ ['\n']) state

end Builtin
end Shell
end Snippets
