import Snippets.Shell.Regex
import Snippets.Shell.Tool.Options

/-!
# Evaluating arguments

Arguments as an expression over texts and whole numbers.
-/

namespace Snippets
namespace Shell
namespace Reckoning

/-- Why an expression has no value. -/
inductive Trouble where
  /-- Something is missing after an argument. -/
  | missing (argument : List Char)
  /-- An argument is where none may be. -/
  | unexpected (argument : List Char)
  /-- A parenthesis is not closed after an argument. -/
  | unclosed (argument : List Char)
  /-- A parenthesis is not closed where there is an argument. -/
  | unclosedBefore (argument : List Char)
  /-- A text is no number. -/
  | noNumber
  /-- A number is divided by zero. -/
  | byZero
  /-- A regular expression cannot be read. -/
  | noExpression

/-- The words for what is wrong. -/
def Trouble.message : Trouble → String
  | missing argument => "syntax error: missing argument after " ++ curly argument
  | unexpected argument => "syntax error: unexpected argument " ++ curly argument
  | unclosed argument => "syntax error: expecting ')' after " ++ curly argument
  | unclosedBefore argument => "syntax error: expecting ')' instead of " ++ curly argument
  | noNumber => "non-integer argument"
  | byZero => "division by zero"
  | noExpression => "Invalid regular expression"

/-- The truth of a value: neither empty nor zero. -/
def isTrue (value : List Char) : Bool :=
  let digits := if value.head? = some '-' then value.drop 1 else value
  !(value.isEmpty || (!digits.isEmpty && digits.all (· = '0')))

/-- The number that a text spells. -/
def number? (text : List Char) : Option Int :=
  if text.head? = some '+' then none else toInt? text

/-- The operators and how strongly they bind. -/
def strength? (sign : List Char) : Option Nat :=
  match String.ofList sign with
  | "|" => some 1
  | "&" => some 2
  | "=" | "==" | "!=" | "<" | "<=" | ">" | ">=" => some 3
  | "+" | "-" => some 4
  | "*" | "/" | "%" => some 5
  | ":" => some 6
  | _ => none

/-- The start of a text that an expression matches: the text of its first group, or the
number of characters. -/
def matching (text pattern : List Char) : Except Trouble (List Char) :=
  match Expression.ofText (.lenient false) (characters pattern) with
  | .error _ => .error .noExpression
  | .ok expression =>
      let characters := characters text
      match expression.matchStart [] characters with
      | some found =>
          .ok (if 0 < expression.count then ofCharacters ((found.groups.lookup 1).getD [])
            else ofNat (characters.length - found.left))
      | none => .ok (if 0 < expression.count then [] else ['0'])

/-- The order of texts by their octets. -/
def order (first second : List Char) : Ordering :=
  compare (String.ofList first) (String.ofList second)

/-- The result of an operator. -/
def apply (sign first second : List Char) : Except Trouble (List Char) :=
  let ofBool := fun holds : Bool =>
    (.ok (if holds then ['1'] else ['0']) : Except Trouble (List Char))
  let ordering := match number? first, number? second with
    | some x, some y => compare x y
    | _, _ => order first second
  let arithmetic := fun operation : Int → Int → Except Trouble Int =>
    match number? first, number? second with
    | some x, some y => (operation x y).map ofInt
    | _, _ => .error .noNumber
  match String.ofList sign with
  | "|" => .ok (if isTrue first then first else if isTrue second then second else ['0'])
  | "&" => .ok (if isTrue first ∧ isTrue second then first else ['0'])
  | "=" | "==" => ofBool (ordering = .eq)
  | "!=" => ofBool (ordering ≠ .eq)
  | "<" => ofBool (ordering = .lt)
  | "<=" => ofBool (ordering ≠ .gt)
  | ">" => ofBool (ordering = .gt)
  | ">=" => ofBool (ordering ≠ .lt)
  | "+" => arithmetic fun x y => .ok (x + y)
  | "-" => arithmetic fun x y => .ok (x - y)
  | "*" => arithmetic fun x y => .ok (x * y)
  | "/" => arithmetic fun x y => if y = 0 then .error .byZero else .ok (Int.tdiv x y)
  | "%" => arithmetic fun x y => if y = 0 then .error .byZero else .ok (Int.tmod x y)
  | _ => matching first second

/-- The place of the first character of a text that is one of some characters. -/
def indexOf (text set : List Char) : Nat :=
  let set := characters set
  ((characters text).findIdx? set.contains).elim 0 (· + 1)

mutual

/-- Evaluates operators that bind at least as strongly as given, after an argument.  Where the
value does not matter, nothing is computed. -/
def climb : Nat → Bool → Nat → List Char → List (List Char) →
    Except Trouble (List Char × List (List Char))
  | 0, _, _, last, _ => .error (.missing last)
  | fuel + 1, matters, least, last, arguments =>
      match operand fuel matters last arguments with
      | .ok (value, rest) => climbFrom fuel matters least value rest
      | .error trouble => .error trouble

/-- Evaluates what follows an operand. -/
def climbFrom : Nat → Bool → Nat → List Char → List (List Char) →
    Except Trouble (List Char × List (List Char))
  | 0, _, _, value, rest => .ok (value, rest)
  | fuel + 1, matters, least, value, arguments =>
      match arguments with
      | [] => .ok (value, [])
      | sign :: rest =>
          match strength? sign with
          | none => .ok (value, sign :: rest)
          | some strength =>
              if strength < least then .ok (value, sign :: rest)
              else
                let matters' :=
                  if sign = ['|'] then matters && !isTrue value
                  else if sign = ['&'] then matters && isTrue value
                  else matters
                match climb fuel matters' (strength + 1) sign rest with
                | .error trouble => .error trouble
                | .ok (second, rest) =>
                    if !matters then climbFrom fuel matters least value rest
                    else if sign = ['|'] ∧ isTrue value then
                      climbFrom fuel matters least value rest
                    else if sign = ['&'] ∧ ¬isTrue value then
                      climbFrom fuel matters least ['0'] rest
                    else
                      match apply sign value second with
                      | .ok value => climbFrom fuel matters least value rest
                      | .error trouble => .error trouble

/-- Evaluates an operand. -/
def operand : Nat → Bool → List Char → List (List Char) →
    Except Trouble (List Char × List (List Char))
  | 0, _, last, _ => .error (.missing last)
  | fuel + 1, matters, last, arguments =>
      match arguments with
      | [] => .error (.missing last)
      | ['('] :: rest =>
          match climb fuel matters 0 ['('] rest with
          | .error trouble => .error trouble
          | .ok (value, [')'] :: rest) => .ok (value, rest)
          | .ok (_, []) => .error (.unclosed ((rest.getLast?).getD ['(']))
          | .ok (_, other :: _) => .error (.unclosedBefore other)
      | [')'] :: _ => .error (.unexpected [')'])
      | first :: rest =>
          let next := fun last rest => operand fuel matters last rest
          match String.ofList first with
          | "+" =>
              match rest with
              | [] => .error (.missing ['+'])
              | text :: rest => .ok (text, rest)
          | "length" =>
              (next first rest).map fun (text, rest) =>
                (ofNat (characters text).length, rest)
          | "match" =>
              match next first rest with
              | .error trouble => .error trouble
              | .ok (text, rest) =>
                  match next text rest with
                  | .error trouble => .error trouble
                  | .ok (pattern, rest) => (matching text pattern).map fun found => (found, rest)
          | "index" =>
              match next first rest with
              | .error trouble => .error trouble
              | .ok (text, rest) =>
                  (next text rest).map fun (set, rest) => (ofNat (indexOf text set), rest)
          | "substr" =>
              match next first rest with
              | .error trouble => .error trouble
              | .ok (text, rest) =>
                  match next text rest with
                  | .error trouble => .error trouble
                  | .ok (start, rest) =>
                      (next start rest).map fun (count, rest) =>
                        match number? start, number? count with
                        | some start, some count =>
                            if start ≤ 0 ∨ count ≤ 0 then ([], rest)
                            else
                              (ofCharacters (((characters text).drop (start.toNat - 1)).take
                                count.toNat), rest)
                        | _, _ => ([], rest)
          | _ => .ok (first, rest)

end

/-- Prints the value of an expression. -/
def expr : Tool := fun invocation =>
  let arguments := if invocation.arguments.head? = some "--".toList then
      invocation.arguments.drop 1 else invocation.arguments
  match arguments with
  | [] => invocation.misused "missing operand" 2
  | [['-', '-', 'h', 'e', 'l', 'p']] =>
      invocation.withOptions [] true 2 invocation.arguments fun _ => invocation.outcome
  | arguments =>
      match climb (8 * arguments.length + 8) true 0 [] arguments with
      | .ok (value, []) =>
          (invocation.print (value ++ ['\n'])).withStatus (if isTrue value then 0 else 1)
      | .ok (_, other :: _) => invocation.fail (Trouble.unexpected other).message 2
      | .error trouble => invocation.fail trouble.message 2

end Reckoning
end Shell
end Snippets
