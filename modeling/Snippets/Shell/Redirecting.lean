import Snippets.Shell.State
import Snippets.Shell.Tool.Basic

/-!
# Redirecting

A redirection makes a descriptor lead to a file, to a device, to another descriptor or to a
text.
-/

namespace Snippets
namespace Shell
namespace Redirecting

/-- Why a redirection fails. -/
inductive Fault where
  /-- A path leads nowhere. -/
  | lookup (path : List Char) (failure : LookupFailure) (isWritten : Bool)
  /-- A file cannot be opened, or not be read. -/
  | unreadable (path : List Char) (failure : ReadFailure) (isWritten : Bool)
  /-- A directory cannot be written. -/
  | directory (path : List Char)
  /-- A file must not be written again. -/
  | exists_ (path : List Char)
  /-- There is no terminal. -/
  | terminal (path : List Char) (isWritten : Bool)
  /-- A descriptor is closed. -/
  | closed (text : List Char)
  /-- A text is no number of a descriptor. -/
  | notNumber (text : List Char)
  /-- A word does not name one file. -/
  | ambiguous (text : List Char)
/-- The words for a fault. -/
def Fault.message (dialect : Dialect) : Fault → List Char
  | lookup path failure isWritten =>
      match dialect with
      | .bash => path ++ ": ".toList ++ ofText (lookupMessage failure)
      | .plain =>
          let words := match failure, isWritten with
            | .missing, true => "Directory nonexistent"
            | .missing, false => "No such file"
            | failure, _ => lookupMessage failure
          (if isWritten then "cannot create " else "cannot open ").toList ++ path ++
            ": ".toList ++ ofText words
  | unreadable path failure isWritten =>
      (if dialect = .bash then []
        else if isWritten then "cannot create ".toList else "cannot open ".toList) ++ path ++
        ofText (": " ++ failure.words)
  | directory path =>
      (if dialect = .bash then [] else "cannot create ".toList) ++ path ++
        ": Is a directory".toList
  | exists_ path =>
      match dialect with
      | .bash => path ++ ": cannot overwrite existing file".toList
      | .plain => "cannot create ".toList ++ path ++ ": File exists".toList
  | terminal path isWritten =>
      (if dialect = .bash then []
        else if isWritten then "cannot create ".toList else "cannot open ".toList) ++ path ++
        ": No such device or address".toList
  | closed text => text ++ ": Bad file descriptor".toList
  | notNumber text =>
      match dialect with
      | .bash => text ++ ": ambiguous redirect".toList
      | .plain => "Bad fd number: ".toList ++ text
  | ambiguous text => text ++ ": ambiguous redirect".toList
/-- The stream of a device, if a path leads to one. -/
def deviceStream? (path : List Char) (isWritten : Bool) (state : State) :
    Option (Except Fault (Stream × State)) :=
  let endlessly := fun text : List Char =>
    let (number, world) := state.world.addBuffer text
    some (.ok (.buffer number, { state with world := world }))
  if path = "/dev/tty".toList then some (.error (.terminal path isWritten))
  else
    match device? path, isWritten with
    | some .null, _ => some (.ok (.nothing, state))
    | some .full, true => some (.ok (.full, state))
    | some .zero, true | some .random, true => some (.ok (.nothing, state))
    | some .zero, false | some .full, false => endlessly (List.replicate endless '\x00')
    | some .random, false => endlessly (disorder endless)
    | some (.descriptor number), _ =>
        match state.stream? number with
        | some stream => some (.ok (stream, state))
        | none =>
            if number ≤ 2 ∨ ("/dev/fd/".toList.isPrefixOf path ∧
                (state.world.tree.node? ["dev", "fd", toString number]).isNone) then
              some (.error (.lookup path .missing isWritten))
            else none
    | none, _ => none

/-- The stream from which a file is read. -/
def inputStream (path : List Char) (state : State) : Except Fault (Stream × State) :=
  match deviceStream? path false state with
  | some found => found
  | none =>
      match state.locate path with
      | .error failure => .error (.lookup path failure false)
      | .ok names =>
          match state.world.tree.node? names with
          | some (.file content _) =>
              let (number, world) := state.world.addFile (ofBytes content)
              .ok (.buffer number, { state with world := world })
          | some (.unreadable failure _) => .error (.unreadable path failure false)
          | some _ => .ok (.nothing, state)
          | none => .error (.lookup path .missing false)

/-- The stream to which a file is written, from its start or from its end. -/
def outputStream (path : List Char) (appends overwrites : Bool) (state : State) :
    Except Fault (Stream × State) :=
  match deviceStream? path true state with
  | some found => found
  | none =>
      match state.place path with
      | .error failure => .error (.lookup path failure true)
      | .ok names =>
          match state.world.tree.node? names with
          | some (.file _ traits) =>
              if appends then .ok (.file names, state)
              else if state.has "noclobber" ∧ !overwrites then .error (.exists_ path)
              else
                .ok (.file names, state.modifyWorld fun world =>
                  { world with
                    tree := world.tree.replace names
                      (.file [] { traits with modified := world.clock }) })
          | some (.unreadable failure _) => .error (.unreadable path failure true)
          | some _ => .error (.directory path)
          | none =>
              if path.getLast? = some '/' then .error (.directory path)
              else
                .ok (.file names, state.modifyWorld fun world =>
                  let traits : NodeTraits := ⟨0o666 &&& (0o777 ^^^ state.mask), world.clock, 0⟩
                  { world with tree := world.tree.put names (.file [] traits) })

/-- The stream of a file that is read and written. -/
def sharedStream (path : List Char) (state : State) : Except Fault (Stream × State) :=
  match state.node? path with
  | some (.file content _) =>
      if content.isEmpty then outputStream path true true state else inputStream path state
  | _ => outputStream path true true state

/-- The first number from ten on of which no descriptor is open. -/
def freeDescriptor (state : State) : Nat :=
  let used := state.descriptors.map Prod.fst
  let free := (List.range (used.length + 1)).find? fun offset : Nat =>
    !used.contains (10 + offset)
  10 + free.getD 0

/-- Makes descriptors lead to a stream. -/
def lead (descriptors : List Nat) (opened : Stream × State) : State :=
  descriptors.foldl (fun state number => state.setStream number opened.1) opened.2

/-- Makes a descriptor lead where another one does, or closes it.  A dash after the number of
the other one closes that one. -/
def duplicate (descriptor : Nat) (target : List Char) (state : State) : Except Fault State :=
  if target = ['-'] then .ok (state.closeStream descriptor)
  else
    let moves := target.getLast? = some '-' ∧ state.isBash
    let digits := if moves then target.dropLast else target
    match toNat? digits with
    | some number =>
        match state.stream? number with
        | some stream =>
            let state := state.setStream descriptor stream
            .ok (if moves ∧ number ≠ descriptor then state.closeStream number else state)
        | none => .error (.closed digits)
    | none => .error (.notNumber target)

/-- Carries out a redirection whose target has been expanded. -/
def redirect (direction : Direction) (descriptor : Nat) (isNumbered : Bool) (target : List Char)
    (state : State) : Except Fault State :=
  let texted := fun text : List Char =>
    let (number, world) := state.world.addFile text
    (.ok ({ state with world := world }.setStream descriptor (.buffer number)) :
      Except Fault State)
  match direction with
  | .here => texted target
  | .hereLine => texted (target ++ ['\n'])
  | .duplicate =>
      let isFile := state.isBash ∧ !isNumbered ∧ descriptor = 1 ∧ target ≠ ['-'] ∧
        !(target.all fun octet => octet.isDigit || octet = '-')
      if isFile then (outputStream target false false state).map (lead [1, 2])
      else duplicate descriptor target state
  | .input => (inputStream target state).map (lead [descriptor])
  | .output => (outputStream target false false state).map (lead [descriptor])
  | .overwrite => (outputStream target false true state).map (lead [descriptor])
  | .append => (outputStream target true false state).map (lead [descriptor])
  | .both => (sharedStream target state).map (lead [descriptor])
  | .outputs => (outputStream target false false state).map (lead [1, 2])
  | .outputsAppend => (outputStream target true false state).map (lead [1, 2])

/-- Whether the target of a direction is the name of a file. -/
def namesFile : Direction → Bool
  | .here | .hereLine | .duplicate => false
  | _ => true

end Redirecting
end Shell
end Snippets
