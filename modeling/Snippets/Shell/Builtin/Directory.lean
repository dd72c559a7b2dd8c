import Snippets.Shell.Builtin.Basic

/-!
# Changing directories

The path of the working directory is kept as it was written, with links in it.  Other
directories are kept on a stack to come back to.
-/

namespace Snippets
namespace Shell
namespace Builtin

/-- A path without dots, which is found from an absolute one. -/
def cleaned (path : List Char) : List Char :=
  let parts := (splitAt '/' path).foldl
    (fun (parts : List (List Char)) part =>
      if part.isEmpty ∨ part = ['.'] then parts
      else if part = ['.', '.'] then parts.drop 1
      else part :: parts)
    []
  '/' :: ['/'].intercalate parts.reverse

/-- The path of names from the root. -/
def pathOf (names : List String) : List Char :=
  ofText ("/" ++ "/".intercalate names)

/-- Goes to a directory.  Its path is kept with its links, or without them. -/
def enterDirectory (isPhysical : Bool) (path : List Char) (state : State) :
    Except LookupFailure State :=
  let whole := if path.head? = some '/' then path else state.path ++ '/' :: path
  let logical := cleaned whole
  -- Every part of the path has to be there, even where a later part leads back.
  let checked := if isPhysical then state.locate path
    else
      match state.locate logical with
      | .ok names => .ok names
      | .error failure =>
          match state.locate path with
          | .ok names => .ok names
          | .error _ => .error failure
  match checked with
  | .error failure => .error failure
  | .ok names =>
      match state.world.tree.node? names with
      | some (.directory _) =>
          let here := if isPhysical then pathOf names else logical
          let state := state.modifyVariable "OLDPWD".toList fun entry =>
            { entry with content := .single state.path }
          let state := { state with directory := names, path := here }
          .ok (state.modifyVariable "PWD".toList fun entry =>
            { entry with content := .single here })
      | _ => .error .notDirectory

/-- The directory among those of a search path in which a path is found, with the path that
leads there and whether it is printed. -/
def searchDirectory (path : List Char) (state : State) : List Char × Bool :=
  let isFree := !(path.head? = some '/' || path = ['.'] || path = ['.', '.'] ||
    "./".toList.isPrefixOf path || "../".toList.isPrefixOf path)
  match state.value? "CDPATH".toList with
  | some search =>
      if !isFree ∨ search.isEmpty then (path, false)
      else
        let found := (splitAt ':' search).findSome? fun place =>
          let candidate := if place.isEmpty then path
            else if place.getLast? = some '/' then place ++ path else place ++ '/' :: path
          if (state.node? candidate).any FileNode.isDirectory then
            some (candidate, !place.isEmpty)
          else none
        found.getD (path, false)
  | none => (path, false)

/-- Changes the working directory. -/
def cd : Builtin := ofWords fun arguments state =>
  withLetters "cd" (if state.isBash then "LPe@" else "LP") arguments state fun given rest =>
    let isPhysical := (given.reverse.find? fun entry =>
      entry.1 = 'L' || entry.1 = 'P').any fun entry => entry.1 = 'P'
    let isPhysical := isPhysical || (given.isEmpty && state.has "physical")
    if state.isBash ∧ 1 < rest.length then refuse "cd" "too many arguments" 1 state
    else
      let target : Except String (List Char × Bool) :=
        match rest.head? with
        | none =>
            match state.value? "HOME".toList with
            | some home => .ok (home, false)
            | none => if state.isBash then .error "HOME not set" else .ok ([], false)
        | some ['-'] =>
            match state.value? "OLDPWD".toList with
            | some before => .ok (before, true)
            | none => if state.isBash then .error "OLDPWD not set" else .ok (state.path, true)
        | some path => .ok (searchDirectory path state)
      match target with
      | .error message => refuse "cd" message 1 state
      | .ok (path, isShown) =>
          if path.isEmpty then done 0 state
          else
            match enterDirectory isPhysical path state with
            | .error failure =>
                refuseBy "cd" (toText path ++ ": " ++ lookupMessage failure)
                  ("can't cd to " ++ toText path) 1 state
            | .ok state =>
                if isShown then print (state.path ++ ['\n']) state else done 0 state

/-- Prints the working directory. -/
def pwd : Builtin := ofWords fun arguments state =>
  withLetters "pwd" "LP" arguments state fun given _ =>
    let isPhysical := (given.getLast?).any fun entry => entry.1 = 'P'
    let path := if isPhysical ∨ state.has "physical" then pathOf state.directory else state.path
    printBy "pwd" (path ++ ['\n']) 0 state

/-- A path with a tilde in place of the home directory. -/
def abbreviated (state : State) (path : List Char) : List Char :=
  match state.value? "HOME".toList with
  | some home =>
      if home.isEmpty ∨ home = ['/'] then path
      else if path = home then ['~']
      else if (home ++ ['/']).isPrefixOf path then '~' :: path.drop home.length
      else path
  | none => path

/-- The directories to come back to, after the working directory. -/
def directories (state : State) : List (List Char) :=
  state.path :: state.stack

/-- The place on the stack that a number with a sign stands for. -/
def stackPlace? (text : List Char) (state : State) : Option (Option Nat) :=
  let size := (directories state).length
  match text with
  | '+' :: digits =>
      (toNat? digits).map fun number => if number < size then some number else none
  | '-' :: digits =>
      (toNat? digits).map fun number => if number < size then some (size - 1 - number) else none
  | _ => none

/-- Prints the directories on the stack. -/
def printStack (state : State) : State :=
  state.write 1 ([' '].intercalate ((directories state).map (abbreviated state)) ++ ['\n'])

/-- Goes to a directory for a command that handles the stack. -/
def goFor (name : String) (path : List Char) (state : State)
    (run : State → Flow × State) : Flow × State :=
  match enterDirectory false path state with
  | .error failure => refuse name (toText path ++ ": " ++ lookupMessage failure) 1 state
  | .ok after => run after

/-- Goes to a directory and keeps the one before on the stack, or turns the stack. -/
def pushd : Builtin := ofWords fun arguments state =>
  let stays := arguments.contains "-n".toList
  let arguments := arguments.filter fun argument =>
    argument != "-n".toList && argument != "--".toList
  let finish := fun state : State => done 0 (printStack state)
  match arguments with
  | [] =>
      match state.stack with
      | [] => refuse "pushd" "no other directory" 1 state
      | first :: rest =>
          goFor "pushd" first state fun after =>
            finish { after with stack := state.path :: rest }
  | [argument] =>
      match stackPlace? argument state with
      | some (some place) =>
          let all := directories state
          let turned := all.drop place ++ all.take place
          goFor "pushd" (turned.head?.getD []) state fun after =>
            finish { after with stack := turned.drop 1 }
      | some none =>
          if state.stack.isEmpty then refuse "pushd" "directory stack empty" 1 state
          else refuse "pushd" (toText argument ++ ": directory stack index out of range") 1 state
      | none =>
          if argument.head? = some '-' ∧ argument.length ≠ 1 then
            let state := state.fail ("pushd: " ++ toText argument ++ ": invalid number") usage
            (.next, state.write 2 (usageLine "pushd"))
          else if stays then finish { state with stack := argument :: state.stack }
          else
            let target := if argument = ['-'] then (state.value? "OLDPWD".toList).getD []
              else (searchDirectory argument state).1
            goFor "pushd" target state fun after =>
              finish { after with stack := state.path :: state.stack }
  | _ => refuse "pushd" "too many arguments" 1 state

/-- Comes back to a directory on the stack, or removes one from it. -/
def popd : Builtin := ofWords fun arguments state =>
  let stays := arguments.contains "-n".toList
  let arguments := arguments.filter (· != "-n".toList)
  let finish := fun state : State => done 0 (printStack state)
  let remove := fun place : Nat =>
    match place, state.stack with
    | 0, first :: rest =>
        if stays then finish { state with stack := rest }
        else goFor "popd" first state fun after => finish { after with stack := rest }
    | place, stack => finish { state with stack := stack.take (place - 1) ++ stack.drop place }
  match arguments with
  | [] =>
      if state.stack.isEmpty then refuse "popd" "directory stack empty" 1 state
      else if stays then finish { state with stack := state.stack.drop 1 }
      else remove 0
  | argument :: _ =>
      match stackPlace? argument state with
      | some (some place) =>
          if state.stack.isEmpty then refuse "popd" "directory stack empty" 1 state
          else remove place
      | some none =>
          if state.stack.isEmpty then refuse "popd" "directory stack empty" 1 state
          else refuse "popd" (toText argument ++ ": directory stack index out of range") 1 state
      | none =>
          let state := state.fail ("popd: " ++ toText argument ++ ": invalid argument") usage
          (.next, state.write 2 (usageLine "popd"))

/-- Prints the stack of directories. -/
def dirs : Builtin := ofWords fun arguments state =>
  let places := arguments.filter fun argument => (stackPlace? argument state).isSome
  let flags := (arguments.filter fun argument => (stackPlace? argument state).isNone).flatten
  let isLong := flags.contains 'l'
  let show_ := fun path : List Char => if isLong then path else abbreviated state path
  if flags.contains 'c' then done 0 { state with stack := [] }
  else
    match places.head? with
    | some argument =>
        match stackPlace? argument state with
        | some (some place) =>
            print (show_ ((directories state)[place]?.getD []) ++ ['\n']) state
        | _ => refuse "dirs" (toText (argument.drop 1) ++ ": directory stack index out of range")
            1 state
    | none =>
        let all := (directories state).map show_
        if flags.contains 'v' then
          print (all.zipIdx.flatMap fun entry =>
            padLeft 2 ' ' (ofNat entry.2) ++ ' ' :: ' ' :: entry.1 ++ ['\n']) state
        else if flags.contains 'p' then print (unlines all) state
        else print ([' '].intercalate all ++ ['\n']) state

end Builtin
end Shell
end Snippets
