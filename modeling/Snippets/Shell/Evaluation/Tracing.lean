import Snippets.Shell.Evaluation.Scripts

/-!
# Telling what is run

A shell may write each command to standard error before it runs it, after the text of a
variable.
-/

namespace Snippets
namespace Shell
namespace Evaluation

/-- A word of a command that is told. -/
def tracedWord (state : State) (word : List Char) : List Char :=
  if !state.isBash then word
  else if word.isEmpty then "''".toList
  else if Quoting.hasMeta word then Quoting.inSingle word
  else if Quoting.hasHidden word then Quoting.inDollar word
  else word

/-- What stands before a command that is told.  Its first character is repeated for each script
around that of the shell. -/
def traceStart (go : Go) (state : State) : List Char × State :=
  let text := (state.value? "PS4".toList).getD "+ ".toList
  let parts := (Script.textParts? (state.reading []) text).getD [.plain text]
  let quiet := (state.setSetting "xtrace" false).setSetting "nounset" false
  match Expansion.textPieces (running go) parts quiet with
  | .error _ => (text, state)
  | .ok (found, after) =>
      let start := Expansion.join found
      let start := if state.isBash then
          List.replicate state.nesting (start.head?.getD '+') ++ start
        else start
      (start, { state with world := after.world })

/-- Writes a line about what is run, where that is wanted. -/
def trace (go : Go) (line : List Char) (state : State) : State :=
  if !state.has "xtrace" then state
  else
    let (start, state) := traceStart go state
    state.write 2 (start ++ line ++ ['\n'])

/-- Writes a command before it is run, where that is wanted. -/
def traceCommand (go : Go) (words : List (List Char)) (state : State) : State :=
  if !state.has "xtrace" ∨ words.isEmpty then state
  else trace go ([' '].intercalate (words.map (tracedWord state))) state

/-- Writes a value that a name is given, where that is wanted. -/
def traceValue (go : Go) (start value : List Char) (state : State) : State :=
  if !state.has "xtrace" then state
  else
    let shown := if value.isEmpty then [] else tracedWord state value
    trace go (start ++ shown) state

end Evaluation
end Shell
end Snippets
