import Snippets.Shell.Regex
import Snippets.Shell.Words

/-!
# Regular expressions of which the first match counts

A notation with more signs than the others: places may be described by what is before them or
after them, a repetition may be as short as possible, and of all matches that start at one place
the first one counts that is found.
-/

namespace Snippets
namespace Shell
namespace Backtracking

/-- What has been read: an expression, what follows, and the number of groups so far. -/
abbrev Reading := Option (Regex × List Char × Nat)

/-- The sets of characters that letters after a backslash stand for. -/
def sets : List (Char × Bool × (Char → Bool)) :=
  let isBlank := fun character : Char => character = ' ' || character = '\t'
  let isSpace := fun character : Char => " \t\n\r\x0b\x0c".toList.contains character
  [('d', true, Char.isDigit), ('D', false, Char.isDigit), ('w', true, Regex.isWordCharacter),
   ('W', false, Regex.isWordCharacter), ('s', true, isSpace), ('S', false, isSpace),
   ('h', true, isBlank), ('H', false, isBlank), ('N', false, fun character => character = '\n')]

/-- The places that letters after a backslash stand for. -/
def places : List (Char × Regex) :=
  [('b', .edge fun before after => before != after),
   ('B', .edge fun before after => before == after),
   ('A', .start), ('z', .stop), ('Z', .stop), ('K', .keep)]

/-- The characters that letters after a backslash stand for. -/
def controls : List (Char × Char) :=
  [('n', '\n'), ('t', '\t'), ('r', '\r'), ('f', '\x0c'), ('e', '\x1b'), ('a', '\x07')]

/-- The character that is written after a backslash, and what follows it. -/
def character? (rest : List Char) : Option (Char × List Char) :=
  match rest with
  | 'x' :: '\x7b' :: rest =>
      let code := rest.takeWhile (· != '\x7d')
      match Words.digits 16 8 code, rest.drop (code.length + 1) with
      | some (code, []), rest => some (Char.ofNat code, rest)
      | _, _ => none
  | 'x' :: rest =>
      match Words.digits 16 2 rest with
      | some (code, rest) => some (Char.ofNat code, rest)
      | none => some ('\x00', rest)
  | letter :: rest =>
      match controls.lookup letter with
      | some character => some (character, rest)
      | none => if letter.isAlphanum then none else some (letter, rest)
  | [] => none

/-- Reads the members of a set up to its bracket. -/
def members : Nat → Bool → (Char → Bool) → List Char → Option ((Char → Bool) × List Char)
  | 0, _, _, _ => none
  | fuel + 1, isFirst, found, rest =>
      let goOn := fun (test : Char → Bool) (rest : List Char) =>
        members fuel false (fun character => found character || test character) rest
      let ranged := fun (low : Char) (rest : List Char) =>
        match rest with
        | '-' :: ']' :: _ => goOn (· = low) rest
        | '-' :: '\\' :: after =>
            match character? after with
            | some (high, after) =>
                if high < low then none
                else goOn (fun character => decide (low ≤ character ∧ character ≤ high)) after
            | none => goOn (· = low) rest
        | '-' :: high :: after =>
            if high < low then none
            else goOn (fun character => decide (low ≤ character ∧ character ≤ high)) after
        | rest => goOn (· = low) rest
      match rest with
      | [] => none
      | '[' :: ':' :: after =>
          let word := after.takeWhile Char.isAlpha
          match classes.lookup (String.ofList word), after.drop word.length with
          | some test, ':' :: ']' :: rest => goOn test rest
          | none, ':' :: ']' :: _ => none
          | _, _ => ranged '[' (':' :: after)
      | ']' :: rest => if isFirst then ranged ']' rest else some (found, rest)
      | '\\' :: 'b' :: rest => ranged '\x08' rest
      | '\\' :: letter :: rest =>
          match sets.lookup letter with
          | some (holds, test) => goOn (fun character => test character == holds) rest
          | none =>
              match character? (letter :: rest) with
              | some (character, rest) => ranged character rest
              | none => none
      | character :: rest => ranged character rest

/-- The bounds of a sign that repeats what is before it, and what follows it. -/
def bounds? (rest : List Char) : Option (Nat × Option Nat × List Char) :=
  match rest with
  | '*' :: rest => some (0, none, rest)
  | '+' :: rest => some (1, none, rest)
  | '?' :: rest => some (0, some 1, rest)
  | '\x7b' :: rest =>
      let least := rest.takeWhile Char.isDigit
      match Regex.boundOf least, rest.drop least.length with
      | some low, '\x7d' :: rest => some (low, some low, rest)
      | some low, ',' :: rest =>
          let most := rest.takeWhile Char.isDigit
          match rest.drop most.length with
          | '\x7d' :: rest => some (low, Regex.boundOf most, rest)
          | _ => none
      | _, _ => none
  | _ => none

/-- What is between the signs around a text in which no other sign has a meaning, and what follows
it. -/
def quoted (found : List Char) : List Char → List Char × List Char
  | '\\' :: 'E' :: rest => (found.reverse, rest)
  | character :: rest => quoted (character :: found) rest
  | [] => (found.reverse, [])

/-- The expression for a text in which no sign has a meaning. -/
def literal (text : List Char) : Regex :=
  text.foldr (fun character rest => .sequence (.one (· = character)) rest) .empty

mutual

/-- Reads choices. -/
def choices : Nat → Nat → List Char → Reading
  | 0, _, _ => none
  | fuel + 1, count, rest =>
      match branch fuel count .empty rest with
      | some (first, '|' :: rest, count) =>
          (choices fuel count rest).map fun (second, rest, count) =>
            (.choice first second, rest, count)
      | found => found

/-- Reads expressions one after the other, after those found. -/
def branch : Nat → Nat → Regex → List Char → Reading
  | 0, _, _, _ => none
  | fuel + 1, count, found, rest =>
      if rest.isEmpty || rest.head? = some '|' || rest.head? = some ')' then
        some (found, rest, count)
      else
        match atom fuel count rest with
        | none => none
        | some (regex, rest, count) =>
            match bounds? rest with
            | none => branch fuel count (.sequence found regex) rest
            | some (least, most, '?' :: rest) =>
                branch fuel count (.sequence found (.seldom least most regex)) rest
            | some (least, most, rest) =>
                let rest := if rest.head? = some '+' then rest.drop 1 else rest
                branch fuel count (.sequence found (.times least most regex)) rest

/-- Reads one expression. -/
def atom : Nat → Nat → List Char → Reading
  | 0, _, _ => none
  | fuel + 1, count, rest =>
      let inside := fun (make : Regex → Regex) (count : Nat) (rest : List Char) =>
        match choices fuel count rest with
        | some (body, ')' :: rest, count) => some (make body, rest, count)
        | _ => none
      match rest with
      | '(' :: '?' :: ':' :: rest | '(' :: '?' :: '>' :: rest => inside id count rest
      | '(' :: '?' :: '=' :: rest => inside (.ahead true) count rest
      | '(' :: '?' :: '!' :: rest => inside (.ahead false) count rest
      | '(' :: '?' :: '<' :: '=' :: rest => inside (.behind true) count rest
      | '(' :: '?' :: '<' :: '!' :: rest => inside (.behind false) count rest
      | '(' :: '?' :: '<' :: rest | '(' :: '?' :: 'P' :: '<' :: rest =>
          inside (.group (count + 1)) (count + 1) ((rest.dropWhile (· != '>')).drop 1)
      | '(' :: '?' :: '#' :: rest => some (.empty, (rest.dropWhile (· != ')')).drop 1, count)
      | '(' :: '?' :: _ => none
      | '(' :: rest => inside (.group (count + 1)) (count + 1) rest
      | '.' :: rest => some (.other (· = '\n'), rest, count)
      | '^' :: rest => some (.start, rest, count)
      | '$' :: rest => some (.stop, rest, count)
      | '[' :: '^' :: rest =>
          (members (rest.length + 1) true (fun _ => false) rest).map fun (test, rest) =>
            (.other test, rest, count)
      | '[' :: rest =>
          (members (rest.length + 1) true (fun _ => false) rest).map fun (test, rest) =>
            (.one test, rest, count)
      | '\\' :: 'Q' :: rest =>
          let (text, rest) := quoted [] rest
          some (literal text, rest, count)
      | '\\' :: 'E' :: rest => some (.empty, rest, count)
      | '\\' :: 'R' :: rest =>
          some (.one fun character => "\n\r\x0b\x0c".toList.contains character, rest, count)
      | '\\' :: letter :: rest =>
          match sets.lookup letter, places.lookup letter with
          | some (true, test), _ => some (.one test, rest, count)
          | some (false, test), _ => some (.other test, rest, count)
          | none, some place => some (place, rest, count)
          | none, none =>
              let number := letter.toNat - 48
              if letter.isDigit && number != 0 then
                if number ≤ count then some (.same number, rest, count) else none
              else
                (character? (letter :: rest)).map fun (character, rest) =>
                  (.one (· = character), rest, count)
      | ['\\'] => none
      | character :: rest =>
          if (bounds? (character :: rest)).isSome then none
          else some (.one (· = character), rest, count)
      | [] => none

end

/-- Reads a regular expression. -/
def expression? (text : List Char) : Option Expression :=
  let (isFolded, text) : Bool × List Char := match text with
    | '(' :: '?' :: 'i' :: ')' :: rest => (true, rest)
    | text => (false, text)
  match choices (4 * text.length + 16) 0 text with
  | some (regex, [], count) =>
      let expression : Expression := ⟨regex, count, false, true⟩
      some (if isFolded then expression.foldCase else expression)
  | _ => none

end Backtracking
end Shell
end Snippets
