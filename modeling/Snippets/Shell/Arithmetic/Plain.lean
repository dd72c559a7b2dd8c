import Snippets.Shell.Arithmetic.Names

/-!
# Expressions of the plain shell

An expression is evaluated while it is read.  Parts of it that do not count are read as well, but
names keep their values then.
-/

namespace Snippets
namespace Shell
namespace Arithmetic
namespace Plain

/-- A piece of an expression. -/
inductive Token where
  /-- The end. -/
  | finish
  /-- A number. -/
  | number (value : Int)
  /-- A name. -/
  | named (name : List Char)
  /-- A sign. -/
  | sign (text : String)
  /-- An assignment with an operation. -/
  | compound (sign : String)
  /-- A character that means nothing. -/
  | bad
  deriving DecidableEq, Inhabited

/-- What is left of an expression, the token that is looked at, and the shell. -/
structure Reader where
  /-- The expression as a whole. -/
  text : List Char
  /-- What has not been read. -/
  rest : List Char
  /-- The token after what has been evaluated. -/
  last : Token
  /-- The shell. -/
  state : State

/-- A step of the evaluation. -/
abbrev Step (α : Type) := StateT Reader (Except (Trouble × State)) α

/-- Ends the evaluation. -/
def halt {α : Type} (message : List Char) : Step α := fun reader =>
  .error (.ending message, reader.state)

/-- Ends the evaluation with the expression in the message. -/
def fault {α : Type} (words : String) : Step α := do
  halt ("arithmetic expression: ".toList ++ words.toList ++ ": \"".toList ++ (← get).text ++ ['"'])

/-- The signs, the longest first. -/
def signs : List String :=
  ["<<", ">>", "<=", ">=", "==", "!=", "&&", "||", "*", "/", "%", "+", "-", "<", ">", "&", "^",
   "|", "=", "!", "~", "(", ")", "?", ":"]

/-- The signs of assignments with an operation. -/
def compoundSigns : List String :=
  ["<<=", ">>=", "*=", "/=", "%=", "+=", "-=", "&=", "^=", "|="]

/-- The greatest number. -/
def greatest : Int := Nat.pow 2 63 - 1

/-- The number at the start of a text, which counts as the greatest one if it is greater, and what
follows it. -/
def numberAt (text : List Char) : Int × List Char :=
  let read := fun (base : Nat) (digits : List Char) =>
    let found := digits.takeWhile fun digit =>
      digitOf base (if base = 16 then digit.toLower else digit) < base &&
        (digit.isDigit || base = 16)
    (min greatest (ofDigits base (found.map Char.toLower) : Int), digits.drop found.length)
  match text with
  | '0' :: letter :: digit :: rest =>
      if (letter = 'x' ∨ letter = 'X') ∧ digitOf 16 digit.toLower < 16 then
        read 16 (digit :: rest)
      else if (letter = 'b' ∨ letter = 'B') ∧ digitOf 2 digit < 2 then read 2 (digit :: rest)
      else read 8 text
  | '0' :: _ => read 8 text
  | _ => read 10 text

/-- Reads the next token. -/
def next : Step Token := do
  let reader ← get
  let text := skip reader.rest
  let (token, rest) : Token × List Char :=
    match text with
    | [] => (.finish, [])
    | first :: after =>
        if first.isDigit then
          let (value, rest) := numberAt text
          (.number value, rest)
        else if Words.startsName first then
          (.named (text.takeWhile Words.isName), text.dropWhile Words.isName)
        else
          match compoundSigns.find? (fun sign => sign.toList.isPrefixOf text),
              signs.find? (fun sign => sign.toList.isPrefixOf text) with
          | some sign, _ =>
              (.compound (String.ofList sign.toList.dropLast), text.drop sign.length)
          | none, some sign => (.sign sign, text.drop sign.length)
          | none, none => (.bad, after)
  set { reader with rest := rest }
  return token

/-- Keeps the token after what has been evaluated. -/
def leave (token : Token) : Step Unit :=
  modify fun reader => { reader with last := token }

/-- How weakly an operator binds its operands, if a token is one. -/
def weakness? : Token → Option Nat
  | .sign text =>
      ([("*", 0), ("/", 0), ("%", 0), ("+", 1), ("-", 1), ("<<", 2), (">>", 2), ("<", 3),
        ("<=", 3), (">", 3), (">=", 3), ("==", 4), ("!=", 4), ("&", 5), ("^", 6), ("|", 7)] :
          List (String × Nat)).lookup text
  | _ => none

/-- Carries out an operation on two numbers. -/
def operate (sign : String) (x y : Int) : Step Int :=
  if divides sign ∧ y = 0 then fault "division by zero" else return apply sign x y

/-- The number that a name stands for. -/
def valueOf (name : List Char) : Step Int := do
  let reader ← get
  let text := (reader.state.value? name).getD []
  let start := skip text
  let isNegative := start.head? = some '-'
  let digits := if isNegative ∨ start.head? = some '+' then start.drop 1 else start
  if start.isEmpty then return 0
  let (value, rest) := numberAt digits
  if !(digits.head?.any Char.isDigit) ∨ !(skip rest).isEmpty then
    halt ("Illegal number: ".toList ++ text)
  else return if isNegative then -value else value

/-- Gives a number to a name. -/
def store (name : List Char) (value : Int) : Step Unit := do
  let reader ← get
  match reader.state.setElement name none (ofInt value) with
  | some state => set { reader with state := state.setSpecial name (ofInt value) }
  | none => halt (name ++ ": is read only".toList)

mutual

/-- The value of an operand, given its first token and the one after it. -/
def primary : Nat → Token → Token → Bool → Step Int
  | 0, _, _, _ => fault "expecting primary"
  | fuel + 1, token, after, isIdle => do
      match token with
      | .sign "(" =>
          let value ← assignment fuel after isIdle
          if (← get).last ≠ .sign ")" then fault "expecting ')'"
          leave (← next)
          return value
      | .number value => do
          leave after
          return value
      | .named name => do
          leave after
          if isIdle then return 0 else valueOf name
      | .sign "+" => primary fuel after (← next) isIdle
      | .sign "-" => return applyUnary '-' (← primary fuel after (← next) isIdle)
      | .sign "!" => return applyUnary '!' (← primary fuel after (← next) isIdle)
      | .sign "~" => return applyUnary '~' (← primary fuel after (← next) isIdle)
      | _ => fault "expecting primary"

/-- The value of operations that follow an operand, as long as they bind more strongly than
given. -/
def operations : Nat → Int → Token → Nat → Bool → Step Int
  | 0, value, _, _, _ => return value
  | fuel + 1, value, operator, most, isIdle => do
      let token ← next
      let operand ← primary fuel token (← next) isIdle
      let weakness := (weakness? operator).getD 0
      let following := (← get).last
      let operand ← match weakness? following with
        | some inner =>
            if inner < weakness then operations fuel operand following weakness isIdle
            else pure operand
        | none => pure operand
      let value ← match isIdle, operator with
        | false, .sign sign => operate sign value operand
        | _, _ => pure operand
      let following := (← get).last
      match weakness? following with
      | some inner =>
          if most ≤ inner then return value
          else operations fuel value following most isIdle
      | none => return value

/-- The value of operands with operators between them. -/
def binary : Nat → Token → Token → Bool → Step Int
  | 0, _, _, _ => fault "expecting primary"
  | fuel + 1, token, after, isIdle => do
      let value ← primary fuel token after isIdle
      let operator := (← get).last
      if (weakness? operator).isNone then return value
      else operations fuel value operator 8 isIdle

/-- The value of operands that all have to hold. -/
def conjunction : Nat → Token → Token → Bool → Step Int
  | 0, _, _, _ => fault "expecting primary"
  | fuel + 1, token, after, isIdle => do
      let first ← binary fuel token after isIdle
      if (← get).last ≠ .sign "&&" then return first
      let token ← next
      let second ← conjunction fuel token (← next) (isIdle || first = 0)
      return ofBool (first ≠ 0 ∧ second ≠ 0)

/-- The value of operands of which one has to hold. -/
def disjunction : Nat → Token → Token → Bool → Step Int
  | 0, _, _, _ => fault "expecting primary"
  | fuel + 1, token, after, isIdle => do
      let first ← conjunction fuel token after isIdle
      if (← get).last ≠ .sign "||" then return first
      let token ← next
      let second ← disjunction fuel token (← next) (isIdle || first ≠ 0)
      return ofBool (first ≠ 0 ∨ second ≠ 0)

/-- The value of one of two operands. -/
def choice : Nat → Token → Token → Bool → Step Int
  | 0, _, _, _ => fault "expecting primary"
  | fuel + 1, token, after, isIdle => do
      let condition ← disjunction fuel token after isIdle
      if (← get).last ≠ .sign "?" then return condition
      let first ← assignment fuel (← next) (isIdle || condition = 0)
      if (← get).last ≠ .sign ":" then fault "expecting ':'"
      let token ← next
      let second ← choice fuel token (← next) (isIdle || condition ≠ 0)
      return if condition ≠ 0 then first else second

/-- The value of an expression, which may be given to a name. -/
def assignment : Nat → Token → Bool → Step Int
  | 0, _, _ => fault "expecting primary"
  | fuel + 1, token, isIdle => do
      let after ← next
      match token, after with
      | .named name, .sign "=" =>
          let value ← assignment fuel (← next) isIdle
          if !isIdle then store name value
          return value
      | .named name, .compound sign =>
          let value ← assignment fuel (← next) isIdle
          if isIdle then return value
          else
            let value ← operate sign (← valueOf name) value
            store name value
            return value
      | token, after => choice fuel token after isIdle

end

/-- The value of an expression. -/
def evaluate (text : List Char) (state : State) : Valued :=
  let whole : Step Int := do
    let value ← assignment (16 * text.length + 64) (← next) false
    if (← get).last ≠ .finish then fault "expecting EOF"
    return value
  (whole.run ⟨text, text, .finish, state⟩).map fun (value, reader) => (value, reader.state)

end Plain
end Arithmetic
end Shell
end Snippets
