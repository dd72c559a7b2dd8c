import Snippets.Number.Shortest

/-!
# The host of an executor

An executor acts on a host: it makes and removes temporary files, runs commands, and
starts, feeds and ends shells.  A host is given by what each of these steps answers and
by the state that it leaves; the state is the host's own, and between two steps it may
have changed in any way that the answers allow.  A step may be limited to a number of
seconds, whole or with a binary fraction, as it was given.

The user may interrupt a step that takes its time: one that makes a file, runs a command,
starts a shell or waits for its end.  Such a step fails with what has been done by then.
-/

namespace Snippets

/-- A number of seconds. -/
inductive Seconds where
  /-- A whole number of seconds. -/
  | whole (value : Int)
  /-- A number of seconds with a fraction. -/
  | binary (value : Number.Binary64)
  deriving DecidableEq, Repr

namespace Seconds

/-- The number as messages show it. -/
def text : Seconds → String
  | whole value => toString value
  | binary value => value.text

/-- The whole microseconds in a number of seconds, none below zero.  A number without a
value, or beyond all others, has no answer. -/
def microseconds? : Seconds → Option Nat
  | whole value => some (value.toNat * 1000000)
  | binary (.finite negative units) =>
      some (if negative then 0 else units * 1000000 / Number.Binary64.one)
  | binary (.infinite true) => some 0
  | binary _ => none

/-- Whether a number of seconds can be added to a time, which is a binary fraction.  A whole
number that is rounded beyond the largest fraction cannot. -/
def canBeAdded : Seconds → Bool
  | whole value =>
      match Number.Binary64.ofInt value with
      | .finite _ _ => true
      | _ => false
  | binary _ => true

end Seconds

/-- Why a step fails that is not expected to. -/
inductive HostFailure where
  /-- A text holds a character that the host takes in no name and in no command. -/
  | invalidText
  /-- A file or a directory is not there. -/
  | missing
  /-- Something that is no directory stands where one is needed. -/
  | notDirectory
  /-- The host does not allow the step. -/
  | refused
  /-- A number of seconds is greater than the host can reckon with. -/
  | tooLong
  /-- The host cannot carry out the step. -/
  | impossible
  /-- The user has interrupted the step. -/
  | interrupted
  deriving DecidableEq, Repr

/-- Why a command has no status. -/
inductive CommandFailure where
  /-- The time is over, and the command was ended. -/
  | timedOut
  /-- The command could not be started, for the given reason. -/
  | notStarted (reason : String)
  /-- Anything else. -/
  | other (failure : HostFailure)
  deriving DecidableEq, Repr

/-- Why there is no shell. -/
inductive ShellFailure where
  /-- There is no program of that name. -/
  | missing
  /-- Anything else. -/
  | other (failure : HostFailure)
  deriving DecidableEq, Repr

/-- The steps of a host with the given states. -/
structure Host (State : Type) where
  /-- Makes a new temporary file whose name ends in an extension, and answers its path. -/
  createFile (ext content : String) : State → Except HostFailure String × State
  /-- Removes the file at a path, if there is one that can be removed. -/
  removeFile (path : String) : State → State
  /-- Runs a command line to its end and answers its status. -/
  runCommand (command : String) (limit : Option Seconds) :
    State → Except CommandFailure Int × State
  /-- Starts a shell and answers its number. -/
  startShell (name : String) : State → Except ShellFailure Nat × State
  /-- Answers whether a shell is running. -/
  isRunning (shell : Nat) : State → Bool × State
  /-- Writes a text to the input of a shell.  A failure comes with its reason. -/
  writeShell (shell : Nat) (text : String) : State → Except String Unit × State
  /-- Ends the input of a shell and waits until it exits.  When the time is over, the
  shell is ended. -/
  endShell (shell : Nat) (limit : Option Seconds) : State → Except HostFailure Unit × State

end Snippets
