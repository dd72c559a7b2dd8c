import Snippets.Files.Tree
import Snippets.Shell.Octets

/-!
# The world of a shell

What all processes share: the files, the time, and the buffers through which they pass
text.  What a process in the background does takes effect when its time has come.
-/

namespace Snippets
namespace Shell

/-- Text on its way from one process to another. -/
structure Buffer where
  /-- The number of octets. -/
  size : Nat
  /-- The pieces of the text, the latest first. -/
  pieces : List (List Char)

namespace Buffer

/-- A buffer with a text. -/
def ofText (text : List Char) : Buffer :=
  ⟨text.length, [text]⟩

/-- The text in a buffer. -/
def text (buffer : Buffer) : List Char :=
  match buffer.pieces with
  | [] => []
  | [piece] => piece
  | pieces => pieces.foldl (fun rest piece => piece ++ rest) []

/-- Adds a text. -/
def push (text : List Char) (buffer : Buffer) : Buffer :=
  if text.isEmpty then buffer else ⟨buffer.size + text.length, text :: buffer.pieces⟩

end Buffer

/-- What a process in the background does. -/
inductive Action where
  /-- It writes a text into a buffer. -/
  | write (buffer : Nat) (text : List Char)
  /-- It changes files: the nodes that it puts under names, or removes. -/
  | change (nodes : List (List String × Option FileNode))
  /-- It sends a signal to a process. -/
  | signal (process : Nat) (number : Nat)
  /-- It ends, and lets go of buffers. -/
  | finish (status : Nat) (buffers : List Nat)

/-- What a process in the background does at a time. -/
structure Effect where
  /-- The time in microseconds. -/
  time : Nat
  /-- The number of the process. -/
  process : Nat
  /-- What it does. -/
  action : Action

/-- What a process in the background has done to what it does not have for itself. -/
structure Outside where
  /-- The number of the first buffer that it has for itself. -/
  buffer : Nat
  /-- The buffer that it reads, if there is one. -/
  input : Option Nat
  /-- The number of the first process that it has started. -/
  process : Nat
  /-- The files as they are known outside. -/
  tree : FileTree
  /-- What it has done, the latest first. -/
  done : List Effect

/-- What all processes share. -/
structure World where
  /-- The files. -/
  tree : FileTree
  /-- The time in microseconds. -/
  clock : Nat
  /-- The time at which the running command is ended. -/
  deadline : Option Nat
  /-- The text in each buffer. -/
  buffers : Array Buffer
  /-- The number of the next process. -/
  nextProcess : Nat
  /-- What processes in the background are going to do, the earliest first. -/
  later : List Effect
  /-- The processes of the background that have ended, with their statuses. -/
  ended : List (Nat × Nat)
  /-- The signals that wait for processes. -/
  signals : List (Nat × Nat)
  /-- The buffers that take only a number of octets more. -/
  limits : List (Nat × Nat)
  /-- The buffers that hold what is in a file, in which a reader can go back. -/
  files : List Nat
  /-- What has been done outside, if the running process is in the background. -/
  outside : Option Outside
  /-- The number of the process that is running. -/
  current : Nat

namespace World

/-- Adds a buffer with a text in it and answers its number. -/
def addBuffer (text : List Char) (world : World) : Nat × World :=
  (world.buffers.size, { world with buffers := world.buffers.push (.ofText text) })

/-- Adds a buffer with what is in a file and answers its number. -/
def addFile (text : List Char) (world : World) : Nat × World :=
  let (number, world) := world.addBuffer text
  (number, { world with files := number :: world.files })

/-- The text in a buffer. -/
def buffer (number : Nat) (world : World) : List Char :=
  (world.buffers[number]?.map Buffer.text).getD []

/-- Puts a text into a buffer. -/
def setBuffer (number : Nat) (text : List Char) (world : World) : World :=
  { world with buffers := world.buffers.setIfInBounds number (.ofText text) }

/-- Whether a buffer takes no more. -/
def isFull (number : Nat) (world : World) : Bool :=
  world.limits.lookup number = some 0

/-- Counts octets that a buffer with a limit has been given. -/
def count (number size : Nat) (world : World) : World :=
  if world.limits.isEmpty then world
  else
    { world with
      limits := world.limits.map fun entry =>
        if entry.1 = number then (number, entry.2 - size) else entry }

/-- The microseconds within which texts are written at the same time. -/
def instant : Nat := 1000

/-- Adds something that has been done outside.  A text is put behind one that has just been
written to the same buffer. -/
def addDone (action : Action) (world : World) (outside : Outside) : World :=
  let effect : Effect := ⟨world.clock, world.current, action⟩
  let done := match action, outside.done with
    | .write number text, ⟨time, process, .write other before⟩ :: rest =>
        if number = other ∧ process = world.current ∧ world.clock < time + instant then
          ⟨time, process, .write number (before ++ text)⟩ :: rest
        else effect :: outside.done
    | _, done => effect :: done
  { world with outside := some { outside with done := done } }

/-- Adds a text to a buffer.  A process in the background leaves the buffers from outside
as they are until its time has come. -/
def writeBuffer (number : Nat) (text : List Char) (world : World) : World :=
  if world.isFull number then world
  else
    let world := world.count number text.length
    match world.outside with
    | some outside =>
        if number < outside.buffer ∧ outside.input ≠ some number then
          world.addDone (.write number text) outside
        else { world with buffers := world.buffers.modify number (Buffer.push text) }
    | none => { world with buffers := world.buffers.modify number (Buffer.push text) }

/-- Sends a signal to a process. -/
def send (process number : Nat) (world : World) : World :=
  let sent := { world with signals := world.signals ++ [(process, number)] }
  match world.outside with
  | some outside =>
      if process < outside.process then world.addDone (.signal process number) outside else sent
  | none => sent

/-- Lets something happen that a process in the background does. -/
def apply (effect : Effect) (world : World) : World :=
  let before := world
  let world := { world with clock := effect.time, current := effect.process }
  let world := match effect.action with
    | .write number text => world.writeBuffer number text
    | .change nodes =>
        { world with
          tree := nodes.foldl
            (fun (tree : FileTree) (entry : List String × Option FileNode) =>
              match entry.2 with
              | some node => tree.put entry.1 node
              | none => tree.remove entry.1)
            world.tree }
    | .signal process number => world.send process number
    | .finish status _ => { world with ended := (effect.process, status) :: world.ended }
  { world with clock := before.clock, current := before.current }

/-- Lets everything happen that is due. -/
def catchUp : List Effect → World → World
  | [], world => { world with later := [] }
  | effect :: rest, world =>
      if effect.time ≤ world.clock then catchUp rest (world.apply effect)
      else { world with later := effect :: rest }

/-- The nodes that differ between two trees, as they are in the second one. -/
def changedNodes (before after : FileTree) : List (List String × Option FileNode) :=
  let put := after.nodes.filterMap fun entry =>
    if before.nodes.lookup entry.1 = some entry.2 then none else some (entry.1, some entry.2)
  let removed := before.nodes.filterMap fun entry =>
    if (after.nodes.lookup entry.1).isSome then none else some (entry.1, none)
  removed ++ put

/-- Lets the files be known outside as they are. -/
def showTree (world : World) : World :=
  match world.outside with
  | none => world
  | some outside =>
      let changed := changedNodes outside.tree world.tree
      if changed.isEmpty then world
      else world.addDone (.change changed) { outside with tree := world.tree }

/-- The microseconds that are so long that others may look at files in the meantime. -/
def pause : Nat := 10000

/-- Lets time pass. -/
def wait (microseconds : Nat) (world : World) : World :=
  let world := if pause ≤ microseconds then world.showTree else world
  let world := { world with clock := world.clock + microseconds }
  if world.later.isEmpty then world else catchUp world.later world

/-- Lets time pass up to a point, unless it has passed already. -/
def waitUntil (time : Nat) (world : World) : World :=
  world.wait (time - world.clock)

/-- Whether the running command is over time. -/
def isLate (world : World) : Bool :=
  world.deadline.any fun deadline => deadline ≤ world.clock

/-- Adds something that happens later. -/
def schedule (effects : List Effect) (world : World) : World :=
  { world with
    later := (world.later ++ effects).mergeSort fun first second => first.time ≤ second.time }

/-- The time at which a process in the background ends, if it is running. -/
def endOf? (process : Nat) (world : World) : Option Nat :=
  world.later.findSome? fun effect =>
    match effect.action with
    | .finish _ _ => if effect.process = process then some effect.time else none
    | _ => none

/-- The times at which something happens to a buffer, in order. -/
def timesOf (number : Nat) (world : World) : List Nat :=
  world.later.filterMap fun effect =>
    match effect.action with
    | .finish _ buffers => if buffers.contains number then some effect.time else none
    | .write buffer _ => if buffer = number then some effect.time else none
    | _ => none

/-- Lets time pass until nobody in the background holds a buffer any more. -/
def drain (number : Nat) (world : World) : World :=
  match (world.timesOf number).getLast? with
  | some time => world.waitUntil time
  | none => world

/-- Lets time pass until a buffer holds enough, nobody can write more into it, or a time has
come.  The answer says whether the time has come first. -/
def awaitText (number : Nat) (isEnough : List Char → Bool) (limit : Option Nat) :
    Nat → World → Bool × World
  | 0, world => (false, world)
  | fuel + 1, world =>
      if world.later.isEmpty || isEnough (world.buffer number) then (false, world)
      else
        match world.timesOf number, limit with
        | [], _ => (false, world)
        | time :: _, none => awaitText number isEnough limit fuel (world.waitUntil time)
        | time :: _, some last =>
            if last < time then (true, world.waitUntil last)
            else awaitText number isEnough limit fuel (world.waitUntil time)

/-- The text of a buffer, and what others are going to write into it. -/
def futureText (number : Nat) (world : World) : List Char :=
  world.buffer number ++ world.later.flatMap fun effect =>
    match effect.action with
    | .write buffer text => if buffer = number then text else []
    | _ => []

/-- Ends a process in the background with a status. -/
def stop (process status : Nat) (world : World) : World :=
  if (world.endOf? process).isSome then
    { world with
      later := world.later.filter fun effect => effect.process != process
      ended := (process, status) :: world.ended }
  else world

end World

end Shell
end Snippets
