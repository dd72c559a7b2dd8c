import Snippets.Shell.Evaluation.Scripts

/-!
# Redirections of commands

The redirections of a command are carried out one after the other, each in the state that the
ones before it have left.
-/

namespace Snippets
namespace Shell
namespace Evaluation

/-- The status of a command whose redirections fail. -/
def unopened (state : State) : Nat :=
  if state.isBash then 1 else Builtin.usage

/-- Why a redirection is not carried out. -/
inductive Unopened where
  /-- It cannot be, and nobody has been told yet. -/
  | fault (fault : Redirecting.Fault) (state : State)
  /-- It cannot be, which has been told. -/
  | told (state : State)
  /-- Its word has no expansion. -/
  | halt (halt : Expansion.Halt)

/-- The text of the target of a redirection. -/
def targetOf (go : Go) (redirection : Redirection) (state : State) :
    Except Unopened (List Char × State) :=
  let halted := fun found : Except Expansion.Halt (List Char × State) =>
    (found.mapError Unopened.halt : Except Unopened (List Char × State))
  let word := redirection.target
  match redirection.direction with
  | .here =>
      match Expansion.pieces (running go) Expansion.deepest .document word.parts state with
      | .ok (found, state) => .ok (Expansion.join found, state)
      | .error halt => .error (.halt halt)
  | .hereLine =>
      match Expansion.lineText (running go) word state with
      | .ok found => .ok found
      | .error (.command, state) => .error (.told state)
      | .error halt => .error (.halt halt)
  | direction =>
      if !state.isBash ∨ !Redirecting.namesFile direction then
        halted (Expansion.text (running go) word state)
      else
        match Expansion.fields (running go) [word] state with
        | .ok ([target], state) => .ok (target, state)
        | .ok (_, state) => .error (.fault (.ambiguous word.text) state)
        | .error halt => .error (.halt halt)

/-- Carries out a redirection. -/
def openOne (go : Go) (redirection : Redirection) (state : State) : Except Unopened State :=
  (targetOf go redirection state).bind fun (target, state) =>
    let carryOut := fun (number : Nat) (state : State) =>
      match Redirecting.redirect redirection.direction number redirection.isNumbered target
          state with
      | .ok state => (.ok state : Except Unopened State)
      | .error fault => .error (.fault fault state)
    match redirection.place with
    | .number number => carryOut number state
    | .named name =>
        let closes := redirection.direction = .duplicate ∧ target = ['-']
        if closes then
          match (state.value? name).bind toNat? with
          | some number => .ok (state.closeStream number)
          | none => .error (.fault (.ambiguous name) state)
        else
          let number := Redirecting.freeDescriptor state
          (carryOut number state).map fun state => state.setVariable name (ofNat number)

/-- Carries out redirections one after the other. -/
def openAll (go : Go) : List Redirection → State → Except Unopened State
  | [], state => .ok state
  | redirection :: rest, state => (openOne go redirection state).bind (openAll go rest)

/-- Complains about a redirection of a command, which is not run then. -/
def refuseOpening (before : State) (ends : Bool) (failure : Unopened) : Result :=
  let finish := fun state : State =>
    let state := { state.withStatus (unopened state) with descriptors := before.descriptors }
    (if ends then Flow.exit else Flow.next, state)
  match failure with
  | .halt (stop, state) =>
      Builtin.stopped (stop, { state with descriptors := before.descriptors })
  | .fault fault state => finish (state.complain (fault.message state.dialect))
  | .told state => finish state

/-- Runs something with other descriptors, which are given back afterwards.  What follows a
failure to open them is given as well. -/
def redirected (go : Go) (redirections : List Redirection) (refused : Result → Result)
    (state : State) (run : State → Result) : Result :=
  if redirections.isEmpty then run state
  else
    let outer := state.listeners
    match openAll go redirections { state with listeners := [] } with
    | .error failure =>
        let (flow, after) := refused (refuseOpening state false failure)
        (flow, { after with listeners := outer })
    | .ok opened =>
        let (flow, after) := run opened
        let after := drainListeners go { after with descriptors := state.descriptors }
        (flow, { after with listeners := outer })

end Evaluation
end Shell
end Snippets
