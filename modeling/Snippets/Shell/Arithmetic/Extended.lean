import Snippets.Shell.Arithmetic.Names

/-!
# Expressions of the shell with the extensions

An expression is evaluated while it is read.  A name stands for the value of the expression that
its variable holds.  Parts that do not count are read as well, but nothing is looked up or
changed then.
-/

namespace Snippets
namespace Shell
namespace Arithmetic
namespace Extended

/-- A piece of an expression. -/
inductive Token where
  /-- The end. -/
  | finish
  /-- A number. -/
  | number
  /-- A name. -/
  | named
  /-- A sign. -/
  | sign (text : String)
  /-- An assignment with an operation. -/
  | compound (sign : String)
  /-- A change by one before a name. -/
  | before (change : Int)
  /-- A change by one after a name. -/
  | after (change : Int)
  deriving DecidableEq, Inhabited

/-- A name, the text between the brackets after it, and the key that this stands for once it has
been found. -/
structure Target where
  /-- The name. -/
  name : List Char
  /-- The text between the brackets. -/
  subscript : Option (List Char)
  /-- The key. -/
  key : Option (List Char)
  deriving Inhabited

/-- What is left of an expression, what has been read of it last, and the shell. -/
structure Reader where
  /-- The expression as a whole. -/
  text : List Char
  /-- What has not been read. -/
  rest : List Char
  /-- The expression from its last token on. -/
  place : List Char
  /-- The token that is looked at. -/
  current : Token
  /-- The token before it. -/
  last : Token
  /-- The name that has been read last. -/
  target : Target
  /-- The value of the name or of the number that has been read last. -/
  value : Int
  /-- Whether the part does not count. -/
  isIdle : Bool
  /-- The shell. -/
  state : State

/-- A step of the evaluation. -/
abbrev Step (α : Type) := StateT Reader (Except (Trouble × State)) α

/-- Ends the evaluation. -/
def halt {α : Type} (trouble : Trouble) : Step α := fun reader =>
  .error (trouble, reader.state)

/-- The words for what is wrong with an expression. -/
def faultText (text place : List Char) (words : String) : List Char :=
  let shown := text.dropWhile fun character => character = ' ' || character = '\t'
  shown ++ ": ".toList ++ words.toList ++ " (error token is \"".toList ++ place ++ "\")".toList

/-- Ends the evaluation with the expression and its last token in the message. -/
def fault {α : Type} (words : String) : Step α := do
  let reader ← get
  halt (.wrong (faultText reader.text reader.place words))

/-- Reads something in a part that may not count. -/
def idleIf {α : Type} (isIdle : Bool) (step : Step α) : Step α := do
  let before := (← get).isIdle
  modify fun reader => { reader with isIdle := before || isIdle }
  let result ← step
  modify fun reader => { reader with isIdle := before }
  return result

/-- The number that a word spells, or what is wrong with it. -/
def numberOf (word : List Char) : Except String Int :=
  let (base, isFixed, digits) : Nat × Bool × List Char :=
    match word with
    | ['0'] => (10, true, word)
    | '0' :: letter :: rest =>
        if letter = 'x' ∨ letter = 'X' then (16, true, rest) else (8, true, letter :: rest)
    | _ => (10, false, word)
  let start := digits.takeWhile (· != '#')
  let isGreat := fun (base : Nat) (digits : List Char) =>
    digits.any fun digit => decide (base ≤ digitOf base digit)
  if isGreat base start then .error "value too great for base"
  else
    match digits.drop start.length with
    | [] => .ok (wrap (ofDigits base start))
    | _ :: rest =>
        let named := ofDigits base start
        if isFixed then .error "invalid number"
        else if named < 2 ∨ 64 < named then .error "invalid arithmetic base"
        else if rest.isEmpty ∨ rest.head? = some '#' then .error "invalid integer constant"
        else
          let inner := rest.takeWhile (· != '#')
          if isGreat named inner then .error "value too great for base"
          else if inner.length < rest.length then .error "invalid number"
          else .ok (wrap (ofDigits named inner))

/-- Whether a token is a sign, or none at all. -/
def isSign : Token → Bool
  | .number | .named => false
  | _ => true

/-- The sign at the start of a text with at least one character, and what follows it.  What the
sign means depends on the tokens before it. -/
def signAt (current last : Token) (text : List Char) : Except String (Token × List Char) :=
  let single := fun (character : Char) (rest : List Char) =>
    (Except.ok (Token.sign (String.ofList [character]), rest) :
      Except String (Token × List Char))
  let changed := fun (character : Char) (change : Int) (rest : List Char) =>
    let isChanged : Bool := match last with
      | .before _ => true
      | _ => false
    if current = .named then (.ok (.after change, rest) : Except String (Token × List Char))
    else if current = .number ∧ isChanged then
      .error (String.ofList [character, character] ++ ": assignment requires lvalue")
    else if (skip rest).head?.any Words.startsName then .ok (.before change, rest)
    else single character (character :: rest)
  match text with
  | '=' :: '=' :: rest => .ok (.sign "==", rest)
  | '!' :: '=' :: rest => .ok (.sign "!=", rest)
  | '>' :: '=' :: rest => .ok (.sign ">=", rest)
  | '<' :: '=' :: rest => .ok (.sign "<=", rest)
  | '<' :: '<' :: '=' :: rest => .ok (.compound "<<", rest)
  | '<' :: '<' :: rest => .ok (.sign "<<", rest)
  | '>' :: '>' :: '=' :: rest => .ok (.compound ">>", rest)
  | '>' :: '>' :: rest => .ok (.sign ">>", rest)
  | '&' :: '&' :: rest => .ok (.sign "&&", rest)
  | '|' :: '|' :: rest => .ok (.sign "||", rest)
  | '*' :: '*' :: rest => .ok (.sign "**", rest)
  | '+' :: '+' :: rest => changed '+' 1 rest
  | '-' :: '-' :: rest => changed '-' (-1) rest
  | character :: rest =>
      if rest.head? = some '=' ∧ "*/%+-&^|".toList.contains character then
        .ok (.compound (String.ofList [character]), rest.drop 1)
      else if "=><+-*/%!()&|^~?:,".toList.contains character then single character rest
      else if isSign current then .error "syntax error: operand expected"
      else .error "syntax error: invalid arithmetic operator"
  | [] => .ok (.finish, [])

/-- The key of an element as it is written in brackets, without its quotes. -/
def bareKey (text : List Char) : List Char :=
  match Script.wordParts? ⟨.bash, 1, [], false⟩ text with
  | some parts =>
      parts.flatMap fun part =>
        match part with
        | .plain octets | .quoted octets => octets
        | _ => []
  | none => text

/-- The operators between two operands, from those that bind most weakly on. -/
def levels : List (List String) :=
  [["|"], ["^"], ["&"], ["==", "!="], ["<=", ">=", "<", ">"], ["<<", ">>"], ["+", "-"],
   ["*", "/", "%"]]

/-- How often names may stand for each other. -/
def deepest : Nat := 1024

/-- How many steps may be inside of each other. -/
def mostSteps : Nat := 1000000

mutual

/-- Reads the next token. -/
def next (depth : Nat) : Nat → Step Unit
  | 0 => fault "expression recursion level exceeded"
  | fuel + 1 => do
      let reader ← get
      let text := skip reader.rest
      match text with
      | [] => set { reader with last := reader.current, current := .finish, rest := [] }
      | first :: _ =>
          let reader := { reader with place := text }
          set reader
          if Words.startsName first then
            let name := text.takeWhile Words.isName
            let after := text.drop name.length
            let (subscript, after) ← match after with
              | '[' :: inner =>
                  match Words.inside ']' inner with
                  | some (key, after) => pure (some key, after)
                  | none => fault "bad array subscript"
              | after => pure (none, after)
            -- A name that is only given a value has not to have one.
            set { reader with rest := after, isIdle := true, current := .named }
            next depth fuel
            let isGiven := (← get).current = .sign "="
            let target : Target := ⟨name, subscript, none⟩
            set { reader with rest := after, target := target }
            let isChanged : Bool := match reader.last with
              | .before _ => true
              | _ => false
            let value ← if isChanged || !isGiven then valueOf depth fuel target else pure 0
            modify fun after =>
              { after with last := reader.current, current := .named, value := value }
          else if first.isDigit then
            let word := text.takeWhile fun character =>
              character.isAlphanum || "#@_".toList.contains character
            match numberOf word with
            | .error words =>
                let shown := reader.text.take (reader.text.length - text.length + word.length)
                halt (.wrong (faultText shown word words))
            | .ok value =>
                set { reader with
                  rest := text.drop word.length, last := reader.current, current := .number
                  value := value }
          else
            match signAt reader.current reader.last text with
            | .error words => fault words
            | .ok (token, rest) =>
                set { reader with rest := rest, last := reader.current, current := token }

/-- The value of a text in place of the one that is being read. -/
def within (depth : Nat) : Nat → List Char → Step Int
  | 0, _ => fault "expression recursion level exceeded"
  | fuel + 1, text => do
      if (skip text).isEmpty then return 0
      match depth with
      | 0 => fault "expression recursion level exceeded"
      | depth + 1 =>
          let outer ← get
          set { outer with
            text := text, rest := text, place := [], current := .finish, last := .finish }
          next depth fuel
          let value ← comma depth fuel
          if (← get).current ≠ .finish then fault "syntax error in expression"
          modify fun inner => { outer with state := inner.state }
          return value

/-- The key that the text between brackets stands for. -/
def keyOf (depth : Nat) : Nat → List Char → List Char → Step (List Char)
  | 0, _, text => return text
  | fuel + 1, name, text => do
      let reader ← get
      if (reader.state.content name).isKeyed then return bareKey text
      else
        match (within depth fuel text).run { reader with isIdle := false } with
        | .error (.wrong message, state) => fun _ => .error (.inside message, state)
        | .error trouble => fun _ => .error trouble
        | .ok (value, inner) =>
            set { reader with state := inner.state }
            return ofInt value

/-- The number that a name stands for. -/
def valueOf (depth : Nat) : Nat → Target → Step Int
  | 0, _ => return 0
  | fuel + 1, target => do
      if (← get).isIdle then return 0
      let text ← match target.subscript with
        | none => do
            let reader ← get
            let (text, state) := reader.state.read target.name
            set { reader with state := state }
            pure text
        | some subscript => do
            let key ← keyOf depth fuel target.name subscript
            modify fun reader => { reader with target := { target with key := some key } }
            let reader ← get
            let content := reader.state.content (reader.state.resolve target.name).1
            match content with
            | .keyed elements => pure (elements.lookup key)
            | content =>
                let index := (toInt? key).getD 0
                let index := if index < 0 then (content.size : Int) + index else index
                if index < 0 then
                  modify fun reader => { reader with
                    state := reader.state.complain
                      (target.name ++ ": bad array subscript".toList) }
                  pure none
                else pure (content.at? index.toNat)
      match text with
      | none =>
          if (← get).state.has "nounset" then
            halt (.ending (target.name ++ ": unbound variable".toList))
          else return 0
      | some text => within depth fuel text

/-- Gives a number to a name, if the part counts. -/
def store (depth : Nat) : Nat → Target → Int → Step Unit
  | 0, _, _ => return ()
  | fuel + 1, target, value => do
      if (← get).isIdle then return ()
      let key ← match target.key, target.subscript with
        | some key, _ => pure (some key)
        | none, none => pure none
        | none, some subscript => do
            let key ← keyOf depth fuel target.name subscript
            pure (some key)
      let reader ← get
      let name := (reader.state.resolve target.name).1
      let isFixed := (reader.state.binding? name).any fun entry => entry.traits.readonly
      match reader.state.setElement target.name key (ofInt value) with
      | some state => set { reader with state := state.setSpecial target.name (ofInt value) }
      | none =>
          if isFixed then halt (.readonly (name ++ ": readonly variable".toList))
          else
            let shown := target.name ++ '[' :: key.getD [] ++ [']']
            set { reader with
              state := reader.state.complain (shown ++ ": bad array subscript".toList) }

/-- The value of expressions with commas between them: that of the last one. -/
def comma (depth : Nat) : Nat → Step Int
  | 0 => fault "expression recursion level exceeded"
  | fuel + 1 => do
      let value ← assignment depth fuel
      if (← get).current = .sign "," then
        next depth fuel
        comma depth fuel
      else return value

/-- The value of an expression, which may be given to a name. -/
def assignment (depth : Nat) : Nat → Step Int
  | 0 => fault "expression recursion level exceeded"
  | fuel + 1 => do
      let value ← choice depth fuel
      let reader ← get
      let target := reader.target
      let needsName : Step Unit :=
        if reader.last = .named then pure () else fault "attempted assignment to non-variable"
      match reader.current with
      | .sign "=" =>
          needsName
          next depth fuel
          let given ← assignment depth fuel
          store depth fuel { target with key := none } given
          return given
      | .compound sign =>
          needsName
          next depth fuel
          let given ← assignment depth fuel
          if divides sign ∧ given = 0 ∧ !(← get).isIdle then fault "division by 0"
          let result := apply sign value (if divides sign ∧ given = 0 then 1 else given)
          store depth fuel target result
          return result
      | _ => return value

/-- The value of one of two expressions. -/
def choice (depth : Nat) : Nat → Step Int
  | 0 => fault "expression recursion level exceeded"
  | fuel + 1 => do
      let condition ← disjunction depth fuel
      if (← get).current ≠ .sign "?" then return condition
      let first ← idleIf (condition = 0) (do
        next depth fuel
        if (← get).current = .finish then fault "expression expected"
        comma depth fuel)
      if (← get).current ≠ .sign ":" then fault "\x60:' expected for conditional expression"
      let second ← idleIf (condition ≠ 0) (do
        next depth fuel
        if (← get).current = .finish then fault "expression expected"
        choice depth fuel)
      modify fun reader => { reader with last := .sign "?" }
      return if condition ≠ 0 then first else second

/-- The value of operands of which one has to hold. -/
def disjunction (depth : Nat) : Nat → Step Int
  | 0 => fault "expression recursion level exceeded"
  | fuel + 1 => do
      let first ← conjunction depth fuel
      disjunctionFrom depth fuel first

/-- The value after an operand of which one has to hold. -/
def disjunctionFrom (depth : Nat) : Nat → Int → Step Int
  | 0, value => return value
  | fuel + 1, value => do
      if (← get).current ≠ .sign "||" then return value
      let second ← idleIf (value ≠ 0) (do
        next depth fuel
        conjunction depth fuel)
      modify fun reader => { reader with last := .sign "||" }
      disjunctionFrom depth fuel (ofBool (value ≠ 0 ∨ second ≠ 0))

/-- The value of operands that all have to hold. -/
def conjunction (depth : Nat) : Nat → Step Int
  | 0 => fault "expression recursion level exceeded"
  | fuel + 1 => do
      let first ← operation depth fuel 0
      conjunctionFrom depth fuel first

/-- The value after an operand that has to hold. -/
def conjunctionFrom (depth : Nat) : Nat → Int → Step Int
  | 0, value => return value
  | fuel + 1, value => do
      if (← get).current ≠ .sign "&&" then return value
      let second ← idleIf (value = 0) (do
        next depth fuel
        operation depth fuel 0)
      modify fun reader => { reader with last := .sign "&&" }
      conjunctionFrom depth fuel (ofBool (value ≠ 0 ∧ second ≠ 0))

/-- The value of operands with operators between them that bind as strongly as a level says, or
more strongly. -/
def operation (depth : Nat) : Nat → Nat → Step Int
  | 0, _ => fault "expression recursion level exceeded"
  | fuel + 1, level => do
      match levels[level]? with
      | none => exponent depth fuel
      | some signs =>
          let value ← operation depth fuel (level + 1)
          operationFrom depth fuel level signs value

/-- The value of operations of a level that follow an operand. -/
def operationFrom (depth : Nat) : Nat → Nat → List String → Int → Step Int
  | 0, _, _, value => return value
  | fuel + 1, level, signs, value => do
      match (← get).current with
      | .sign sign =>
          if !signs.contains sign then return value
          let place := skip (← get).rest
          next depth fuel
          let operand ← operation depth fuel (level + 1)
          if divides sign ∧ operand = 0 ∧ !(← get).isIdle then
            modify fun reader => { reader with place := place }
            fault "division by 0"
          let operand := if divides sign ∧ operand = 0 then 1 else operand
          modify fun reader => { reader with last := .number }
          operationFrom depth fuel level signs (apply sign value operand)
      | _ => return value

/-- The value of a power. -/
def exponent (depth : Nat) : Nat → Step Int
  | 0 => fault "expression recursion level exceeded"
  | fuel + 1 => do
      let base ← unary depth fuel
      if (← get).current ≠ .sign "**" then return base
      next depth fuel
      let height ← exponent depth fuel
      modify fun reader => { reader with last := .number }
      if height < 0 then fault "exponent less than 0"
      return power base height.toNat

/-- The value of an operand with signs before it. -/
def unary (depth : Nat) : Nat → Step Int
  | 0 => fault "expression recursion level exceeded"
  | fuel + 1 => do
      let signed := fun sign : Char => do
        next depth fuel
        let value ← unary depth fuel
        modify fun reader => { reader with last := .number }
        return applyUnary sign value
      match (← get).current with
      | .sign "!" => signed '!'
      | .sign "~" => signed '~'
      | .sign "-" => signed '-'
      | .sign "+" => signed '+'
      | _ => operand depth fuel

/-- The value of an operand. -/
def operand (depth : Nat) : Nat → Step Int
  | 0 => fault "expression recursion level exceeded"
  | fuel + 1 => do
      let reader ← get
      match reader.current with
      | .before change =>
          set { reader with last := reader.current }
          next depth fuel
          let reader ← get
          if reader.current ≠ .named then
            fault "identifier expected after pre-increment or pre-decrement"
          let value := wrap (reader.value + change)
          store depth fuel reader.target value
          modify fun reader => { reader with current := .number }
          next depth fuel
          return value
      | .sign "(" =>
          next depth fuel
          let value ← comma depth fuel
          if (← get).current ≠ .sign ")" then fault "missing \x60)'"
          next depth fuel
          return value
      | .number =>
          next depth fuel
          return reader.value
      | .named =>
          set { reader with isIdle := true }
          next depth fuel
          let following ← get
          match following.current with
          | .after change =>
              set { following with
                isIdle := reader.isIdle, target := reader.target, last := .named }
              store depth fuel reader.target (wrap (reader.value + change))
              modify fun after => { after with current := .number }
              next depth fuel
          | _ =>
              set reader
              next depth fuel
          return reader.value
      | _ => fault "syntax error: operand expected"

end

/-- The value of an expression. -/
def evaluate (text : List Char) (state : State) : Valued :=
  let reader : Reader :=
    { text := text, rest := text, place := [], current := .finish, last := .finish
      target := default, value := 0, isIdle := false, state := state }
  ((within deepest mostSteps text).run reader).map fun (value, reader) =>
    (value, reader.state)

end Extended
end Arithmetic
end Shell
end Snippets
