import Snippets.Shell.State

/-!
# The numbers and names in expressions

Expressions reckon with whole numbers of 64 bits, which wrap around.  A name stands for what its
variable holds, and is given the text of a number.  Some variables have a meaning for the shell.
-/

namespace Snippets
namespace Shell
namespace Arithmetic

/-- A number wrapped to 64 bits. -/
def wrap (value : Int) : Int :=
  Int.bmod value (Nat.pow 2 64)

/-- A power wrapped to 64 bits: the squares of the base whose bits the exponent has. -/
def power (base : Int) (exponent : Nat) : Int :=
  ((List.range 64).foldl (fun (product, square) bit =>
    (if exponent.testBit bit then wrap (product * square) else product, wrap (square * square)))
    (1, base)).1

/-- Whether a character is blank in an expression. -/
def isBlank (character : Char) : Bool :=
  " \t\n".toList.contains character

/-- Skips blank characters. -/
def skip (text : List Char) : List Char :=
  text.dropWhile isBlank

/-- The number that stands for the truth of something. -/
def ofBool (holds : Bool) : Int :=
  if holds then 1 else 0

/-- An operation on the bits of two numbers. -/
def onBits (operation : Int64 → Int64 → Int64) (x y : Int) : Int :=
  (operation (Int64.ofInt x) (Int64.ofInt y)).toInt

/-- The result of an operation on two numbers, of which the second one is not zero where it
divides. -/
def apply (sign : String) (x y : Int) : Int :=
  match sign with
  | "*" => wrap (x * y)
  | "/" => wrap (Int.tdiv x y)
  | "%" => wrap (Int.tmod x y)
  | "+" => wrap (x + y)
  | "-" => wrap (x - y)
  | "<<" => wrap (x * (Nat.pow 2 (y % 64).toNat : Int))
  | ">>" => Int.fdiv x (Nat.pow 2 (y % 64).toNat : Int)
  | "<=" => ofBool (x ≤ y)
  | ">=" => ofBool (y ≤ x)
  | "<" => ofBool (x < y)
  | ">" => ofBool (y < x)
  | "==" => ofBool (x = y)
  | "!=" => ofBool (x ≠ y)
  | "&" => onBits (· &&& ·) x y
  | "^" => onBits (· ^^^ ·) x y
  | "|" => onBits (· ||| ·) x y
  | _ => y

/-- Whether an operation divides. -/
def divides (sign : String) : Bool :=
  sign = "/" || sign = "%"

/-- The result of an operation on one number. -/
def applyUnary (sign : Char) (value : Int) : Int :=
  match sign with
  | '-' => wrap (-value)
  | '!' => ofBool (value = 0)
  | '~' => -value - 1
  | _ => value

/-- The value of a digit of any base up to sixty-four. -/
def digitOf (base : Nat) (character : Char) : Nat :=
  if character.isDigit then character.toNat - 48
  else if character.isLower then character.toNat - 87
  else if character.isUpper then
    (if base ≤ 36 then character.toNat - 55 else character.toNat - 29)
  else if character = '@' then 62
  else if character = '_' then 63
  else 99

/-- The number of digits. -/
def ofDigits (base : Nat) (digits : List Char) : Nat :=
  digits.foldl (fun value digit => value * base + digitOf base digit) 0

end Arithmetic
/-! ## Names -/

namespace State

/-- The next number of a row that looks random. -/
def nextSeed (seed : Nat) : Nat :=
  let seed : Int := if seed = 0 then 123459876 else seed
  let high := seed / 127773
  let low := seed - 127773 * high
  let next := 16807 * low - 2836 * high
  (if next < 0 then next + 0x7fffffff else next).toNat

/-- The random number of a seed. -/
def ofSeed (seed : Nat) : Nat :=
  ((seed >>> 16) ^^^ (seed % 65536)) % 32768

/-- A random number. -/
def draw (state : State) : Nat × State :=
  let seed := nextSeed state.seed
  let seed := if ofSeed seed = ofSeed state.seed then nextSeed seed else seed
  (ofSeed seed, { state with seed := seed })

/-- Whether a name stands for random numbers. -/
def isRandom (name : List Char) (state : State) : Bool :=
  state.isBash && name = "RANDOM".toList

/-- The value of a variable, which may be a new random number. -/
def read (name : List Char) (state : State) : Option (List Char) × State :=
  if state.isRandom name then
    let (value, state) := state.draw
    (some (ofNat value), state)
  else (state.parameter? name, state)

/-- Sets the text of a variable, or of one of its elements, unless the variable is to keep
its value or a number is out of range. -/
def setElement (name : List Char) (subscript : Option (List Char)) (value : List Char)
    (state : State) : Option State :=
  let (name, inner) := state.resolve name
  let subscript := subscript.orElse fun _ => inner
  let entry := state.binding? name
  let content := (entry.map Variable.content).getD .nothing
  if entry.any fun entry => entry.traits.readonly then none
  else
    match subscript, content with
    | none, _ => some (state.setVariable name value)
    | some key, .keyed elements =>
        some (state.setContent name (.keyed (Content.putKey key value elements)))
    | some key, content =>
        (toInt? key).bind fun index =>
          let index := if index < 0 then (content.size : Int) + index else index
          if index < 0 then none
          else some (state.setContent name (content.setAt index.toNat value))

/-- Sets a variable that has a meaning for the shell. -/
def setSpecial (name value : List Char) (state : State) : State :=
  match String.ofList name with
  | "RANDOM" => { state with seed := (toNat? value).getD 0 }
  | "SECONDS" =>
      { state with secondsFrom := state.world.clock / 1000000 - (toNat? value).getD 0 }
  | "OPTIND" => { state with optionPlace := 1 }
  | "PATH" => { state with remembered := [] }
  | _ => state

end State

namespace Arithmetic

/-- Why an expression has no value. -/
inductive Trouble where
  /-- It is none, or it cannot be carried out. -/
  | wrong (message : List Char)
  /-- An expression inside brackets has no value. -/
  | inside (message : List Char)
  /-- A name is not given a value. -/
  | readonly (message : List Char)
  /-- A name has no value, or a value that is no number, which ends the script. -/
  | ending (message : List Char)
  deriving DecidableEq, Repr

/-- The words for a trouble. -/
def Trouble.message : Trouble → List Char
  | wrong message | inside message | readonly message | ending message => message

/-- The value of an expression and the state after it, or what is wrong with it. -/
abbrev Valued := Except (Trouble × State) (Int × State)

end Arithmetic
end Shell
end Snippets
