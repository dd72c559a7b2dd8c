import Snippets.Execution.Host

/-!
# Shell sessions

A session is a shell that is started when the first text is sent to it and that stays
open for the texts after it.
-/

namespace Snippets

/-- A shell that stays open. -/
structure Session where
  /-- The name of the shell. -/
  shell : String
  /-- The running shell, once it has been started and until the session is closed. -/
  process : Option Nat
  deriving DecidableEq, Repr

/-- Why a text was not sent. -/
inductive SendFailure where
  /-- There is no shell of that name. -/
  | shellMissing (name : String)
  /-- The shell did not take the text. -/
  | shellGone (reason : String)
  /-- Anything else. -/
  | other (failure : HostFailure)
  deriving DecidableEq, Repr

namespace Session

variable {State : Type}

/-- The shell of a session unless another is named. -/
def defaultShell : String := "bash"

/-- The time that a shell has for its exit unless another is given. -/
def defaultLimit : Seconds := .whole 5

/-- A session whose shell has not been started. -/
def ofShell (shell : String) : Session :=
  ⟨shell, none⟩

/-- Whether the shell of a session was started and has exited. -/
def hasEnded (host : Host State) (session : Session) (state : State) : Bool × State :=
  match session.process with
  | none => (false, state)
  | some process =>
      let (running, state) := host.isRunning process state
      (!running, state)

/-- The running shell of a session.  A shell that is not running is started. -/
def ensure (host : Host State) (session : Session) (state : State) :
    Except SendFailure Nat × Session × State :=
  let start := fun state : State =>
    match host.startShell session.shell state with
    | (.ok process, state) => (.ok process, { session with process := some process }, state)
    | (.error .missing, state) => (.error (.shellMissing session.shell), session, state)
    | (.error (.other failure), state) => (.error (.other failure), session, state)
  match session.process with
  | none => start state
  | some process =>
      match host.isRunning process state with
      | (true, state) => (.ok process, session, state)
      | (false, state) => start state

/-- Sends a text to the shell of a session. -/
def send (host : Host State) (text : String) (session : Session) (state : State) :
    Except SendFailure Unit × Session × State :=
  match ensure host session state with
  | (.error failure, session, state) => (.error failure, session, state)
  | (.ok process, session, state) =>
      match host.writeShell process text state with
      | (.ok (), state) => (.ok (), session, state)
      | (.error reason, state) => (.error (.shellGone reason), session, state)

/-- Closes a session.  Its shell is forgotten even if nobody can wait for it. -/
def close (host : Host State) (limit : Option Seconds) (session : Session) (state : State) :
    Except HostFailure Unit × Session × State :=
  match session.process with
  | none => (.ok (), session, state)
  | some process =>
      let (ended, state) := host.endShell process limit state
      (ended, { session with process := none }, state)

end Session
end Snippets
