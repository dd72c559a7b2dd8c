import Snippets.Shell.Evaluation.Tracing

/-!
# Conditions and expressions as commands

A condition on words is decided from left to right, as far as that is needed.  An expression
succeeds if its value is not zero.
-/

namespace Snippets
namespace Shell
namespace Evaluation

/-- Whether a condition holds, with the state after it, or what takes the place of an answer. -/
abbrev Judged := Except Result (Bool × State)

/-- Opens an expansion. -/
def opened {α : Type} (found : Except Expansion.Halt (α × State)) : Except Result (α × State) :=
  found.mapError Builtin.stopped

/-- The text of a regular expression.  What is quoted stands for itself. -/
def regexText (glyphs : List Glyph) : List Char :=
  glyphs.flatMap fun (character, isQuoted) =>
    if isQuoted ∧ "\\.^$*+?()[]\x7b\x7d|".toList.contains character then ['\\', character]
    else [character]

/-- A pattern as it is told: a backslash before what is quoted. -/
def toldPattern (state : State) (glyphs : List Glyph) : List Char :=
  Expansion.encode state (glyphs.flatMap fun (character, isQuoted) =>
    if isQuoted then ['\\', character] else [character])

/-- The texts of the groups of a match, and before them that of the whole. -/
def matchedTexts (count : Nat) (found : Expression.Found) : List (List Char) :=
  found.text :: (List.range count).map fun index : Nat =>
    (found.groups.lookup (index + 1)).getD []

/-- Tells a test, where that is wanted. -/
def traceTest (go : Go) (words : List (List Char)) (state : State) : State :=
  if !state.has "xtrace" then state
  else
    let shown := words.map fun word : List Char =>
      if word.isEmpty then "''".toList else word
    trace go ("[[ ".toList ++ [' '].intercalate shown ++ " ]]".toList) state

/-- Whether a text matches a regular expression, whose groups become the elements of a
variable. -/
def judgeRegex (text : List Char) (pattern : List Glyph) (state : State) : Judged :=
  let name := "BASH_REMATCH".toList
  match Expression.ofText .conditional (regexText pattern) with
  | .error _ => .error (.next, state.withStatus Builtin.usage)
  | .ok expression =>
      let expression :=
        if state.has "nocasematch" then expression.foldCase else expression
      match expression.find (Expansion.decode state text) with
      | none => .ok (false, state.setContent name (.indexed []))
      | some found =>
          let texts := (matchedTexts expression.count found).map (Expansion.encode state)
          .ok (true, state.setContent name (State.listContent texts))

/-- The number of a word of a condition. -/
def numberOf (text : List Char) (state : State) : Except Result (Int × State) :=
  match Arithmetic.valueOfText text state with
  | .ok found => .ok found
  | .error (trouble, state) => .error (Builtin.troubled "[[" trouble state)

/-- Decides a test of two words. -/
def judgeBinary (go : Go) (first : Word) (sign : String) (second : Word) (state : State) :
    Judged := do
  let (text, state) ← opened (Expansion.text (running go) first state)
  let facts := Builtin.factsOf (running go) state
  match sign with
  | "=" | "==" | "!=" | "=~" =>
      let (pattern, state) ← opened (Expansion.patternOf (running go) second state)
      let state := traceTest go [text, ofText sign, toldPattern state pattern] state
      if sign = "=~" then judgeRegex text pattern state
      else
        let isMatch :=
          Pattern.isMatch (Expansion.style state) pattern (Expansion.decode state text)
        return (isMatch == (sign != "!="), state)
  | sign =>
      let (other, state) ← opened (Expansion.text (running go) second state)
      let state := traceTest go [text, ofText sign, other] state
      match Condition.comparison sign, Condition.fileComparison facts sign with
      | some compare, _ =>
          let (x, state) ← numberOf text state
          let (y, state) ← numberOf other state
          return (compare x y, state)
      | none, some compare => return (compare text other, state)
      | none, none =>
          match Condition.textComparison .bash sign with
          | some compare => return (compare text other, state)
          | none => return (false, state)

/-- Decides a condition. -/
def judge (go : Go) : Test → State → Judged
  | .word word, state => do
      let (text, state) ← opened (Expansion.text (running go) word state)
      return (!text.isEmpty, traceTest go ["-n".toList, text] state)
  | .unary sign word, state => do
      let (text, state) ← opened (Expansion.text (running go) word state)
      let state := traceTest go [ofText sign, text] state
      let isReference := (state.bindings.find? fun entry => entry.name = text).any fun entry =>
        entry.traits.reference
      let holds := if sign = "-R" then isReference
        else Condition.holdsUnary (Builtin.factsOf (running go) state) sign text
      return (holds, state)
  | .binary first sign second, state => judgeBinary go first sign second state
  | .opposite test, state => do
      let (holds, state) ← judge go test state
      return (!holds, state)
  | .both first second, state => do
      let (holds, state) ← judge go first state
      if holds then judge go second state else return (false, state)
  | .either first second, state => do
      let (holds, state) ← judge go first state
      if holds then return (true, state) else judge go second state
  | .group test, state => judge go test state

/-- Runs a condition as a command. -/
def runCondition (go : Go) (test : Test) (state : State) : Result :=
  match judge go test state with
  | .error result => result
  | .ok (holds, state) => (.next, (step state).withStatus (if holds then 0 else 1))

/-- The value of an expression that is part of a command, unless it has none. -/
def valueOf (go : Go) (expression : Word) (state : State) : Except Result (Int × State) := do
  let expand := Expansion.textPieces (running go) expression.parts
  let (found, state) ← opened (expand state)
  let text := Expansion.join found
  let state := if state.has "xtrace" then
      trace go ("(( ".toList ++ (((text.dropWhile (· = ' ')).reverse.dropWhile
        (· = ' ')).reverse) ++ " ))".toList) state
    else state
  match Arithmetic.valueOfText text state with
  | .ok found => return found
  | .error (trouble, state) => throw (Builtin.troubled "((" trouble state)

/-- Runs an expression as a command. -/
def runArithmetic (go : Go) (expression : Word) (state : State) : Result :=
  match valueOf go expression state with
  | .error result => result
  | .ok (value, state) => (.next, (step state).withStatus (if value = 0 then 1 else 0))

end Evaluation
end Shell
end Snippets
