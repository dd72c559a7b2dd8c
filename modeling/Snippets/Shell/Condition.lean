import Snippets.Files.Tree
import Snippets.Shell.Octets

/-!
# Conditions

A condition is a row of words: tests of texts, numbers and files, joined by signs for
"and", "or" and "not" and by parentheses.  Up to four words are read by their number, more
of them by the strength of the signs.  The plain shell reads conditions word by word, and
finds out what a word is from those that follow it.
-/

namespace Snippets
namespace Shell
namespace Condition

/-- What a condition asks about its surroundings. -/
structure Facts where
  /-- The node that a path leads to. -/
  node? : List Char → Option FileNode
  /-- The node at a path, where a link at the end is not followed. -/
  self? : List Char → Option FileNode
  /-- The names that a path leads to. -/
  names? : List Char → Option (List String)
  /-- Whether a variable is set. -/
  isSet : List Char → Bool
  /-- Whether a setting is on. -/
  isOn : List Char → Bool

/-- The facts about files, as they are seen from a directory. -/
def Facts.ofFiles (tree : FileTree) (directory : List String) : Facts where
  node? path := (tree.lookup directory (toText path)).toOption
  self? path :=
    match tree.placeSelf directory (toText path) with
    | .ok names => tree.node? names
    | .error _ => none
  names? path := (tree.locate directory (toText path)).toOption
  isSet _ := false
  isOn _ := false

/-- How the words of a condition are read. -/
inductive Reader where
  /-- As the shell with the extensions does. -/
  | bash
  /-- As the plain shell does. -/
  | plain
  /-- As a program does that is no part of a shell. -/
  | program
  deriving DecidableEq

/-- Why words are no condition. -/
inductive Fault where
  /-- A word is not a number. -/
  | notNumber (word : List Char)
  /-- A word should be a sign for one operand. -/
  | notUnary (word : List Char)
  /-- A word should be a sign for two operands. -/
  | notBinary (word : List Char)
  /-- There should be more after a word. -/
  | missing (after : List Char)
  /-- There are more words than there should be. -/
  | extra (word : List Char)
  /-- A word is not what should be there. -/
  | unexpected (word : List Char)
  /-- A parenthesis should be closed, instead of which a word may be there. -/
  | unclosed (found : Option (List Char))
  /-- The bracket is not closed. -/
  | open_
  deriving DecidableEq

/-- The words for a fault. -/
def Fault.message (reader : Reader) : Fault → String
  | notNumber word =>
      match reader with
      | .bash => toText word ++ ": integer expression expected"
      | .plain => "Illegal number: " ++ toText word
      | .program => "invalid integer ‘" ++ toText word ++ "’"
  | notUnary word =>
      match reader with
      | .program => "‘" ++ toText word ++ "’: unary operator expected"
      | _ => toText word ++ ": unary operator expected"
  | notBinary word =>
      match reader with
      | .program => "‘" ++ toText word ++ "’: binary operator expected"
      | _ => toText word ++ ": binary operator expected"
  | missing after =>
      match reader with
      | .bash => "argument expected"
      | .plain => toText after ++ ": argument expected"
      | .program => "missing argument after ‘" ++ toText after ++ "’"
  | extra word =>
      match reader with
      | .program => "extra argument ‘" ++ toText word ++ "’"
      | _ =>
          if word.head? = some '-' then "syntax error: \x60" ++ toText word ++ "' unexpected"
          else "too many arguments"
  | unexpected word => toText word ++ ": unexpected operator"
  | unclosed found =>
      match reader, found with
      | .plain, _ => "closing paren expected"
      | .program, some word => "‘)’ expected, found ‘" ++ toText word ++ "’"
      | .program, none => "‘)’ expected"
      | .bash, some word => "\x60)' expected, found " ++ toText word
      | .bash, none => "\x60)' expected"
  | open_ =>
      match reader with
      | .bash => "missing \x60]'"
      | .plain => "missing ]"
      | .program => "missing ‘]’"

/-- The number of a word.  Blanks around it do not count. -/
def number? (text : List Char) : Option Int :=
  let isBlank := fun octet : Char => " \t\n\x0b\x0c\r".toList.contains octet
  let trimmed := text.dropWhile isBlank
  toInt? ((trimmed.reverse.dropWhile isBlank).reverse)

/-- Whether a number has at most 64 bits. -/
def isSmall (value : Int) : Bool :=
  -0x8000000000000000 ≤ value && value ≤ 0x7FFFFFFFFFFFFFFF

/-- Whether a path is that of a device which handles single characters. -/
def isDevice (names : List String) : Bool :=
  [["dev", "null"], ["dev", "zero"], ["dev", "full"], ["dev", "random"], ["dev", "urandom"],
   ["dev", "tty"]].contains names

/-- The signs for one operand. -/
def unarySigns (reader : Reader) : List String :=
  ["-z", "-n", "-e", "-r", "-w", "-f", "-d", "-s", "-x", "-L", "-h", "-u", "-g", "-k", "-c", "-t",
   "-p", "-S", "-b", "-O", "-G"] ++
    match reader with
    | .bash => ["-a", "-v", "-o", "-N", "-R"]
    | .program => ["-N"]
    | .plain => []

/-- Whether the operand of a sign fits it. -/
def holdsUnary (facts : Facts) (sign : String) (word : List Char) : Bool :=
  let file := fun test : FileNode → Bool => (facts.node? word).any test
  let hasBit := fun bit : Nat => file fun node => node.traits.mode &&& bit != 0
  match sign with
  | "-z" => word.isEmpty
  | "-n" => !word.isEmpty
  | "-f" =>
      !((facts.names? word).any isDevice) && file fun node => !node.isDirectory
  | "-d" => file FileNode.isDirectory
  | "-s" => file fun node =>
      match node with
      | .file content _ => !content.isEmpty
      | _ => true
  | "-r" => file fun node =>
      match node with
      | .unreadable failure _ => failure ≠ .refused
      | _ => true
  | "-x" => file fun node => node.isDirectory || node.isProgram
  | "-L" | "-h" => (facts.self? word).any FileNode.isLink
  | "-u" => hasBit 0o4000
  | "-g" => hasBit 0o2000
  | "-k" => hasBit 0o1000
  | "-c" => (facts.names? word).any isDevice
  | "-t" | "-p" | "-S" | "-b" | "-R" => false
  | "-v" => facts.isSet word
  | "-o" => facts.isOn word
  | _ => file fun _ => true

/-- The comparisons of two numbers. -/
def comparison (sign : String) : Option (Int → Int → Bool) :=
  match sign with
  | "-eq" => some fun first second => first == second
  | "-ne" => some fun first second => first != second
  | "-lt" => some fun first second => decide (first < second)
  | "-le" => some fun first second => decide (first ≤ second)
  | "-gt" => some fun first second => decide (second < first)
  | "-ge" => some fun first second => decide (second ≤ first)
  | _ => none

/-- The comparisons of two files. -/
def fileComparison (facts : Facts) (sign : String) : Option (List Char → List Char → Bool) :=
  let time := fun path : List Char =>
    (facts.node? path).map fun node => node.traits.modified
  let newer := fun first second : List Char =>
    match time first, time second with
    | some x, some y => decide (y < x)
    | some _, none => true
    | _, _ => false
  match sign with
  | "-nt" => some newer
  | "-ot" => some fun first second => newer second first
  | "-ef" => some fun first second =>
      match facts.names? first, facts.names? second with
      | some x, some y =>
          let identity := fun path : List Char =>
            ((facts.node? path).map fun node => node.traits.identity).getD 0
          x = y || (identity first != 0 && identity first = identity second)
      | _, _ => false
  | _ => none

/-- The comparisons of two texts. -/
def textComparison (reader : Reader) (sign : String) : Option (List Char → List Char → Bool) :=
  match sign with
  | "=" => some fun first second => first == second
  | "==" => if reader = .plain then none else some fun first second => first == second
  | "!=" => some fun first second => first != second
  | "<" =>
      if reader = .program then none
      else some fun first second => decide (String.ofList first < String.ofList second)
  | ">" =>
      if reader = .program then none
      else some fun first second => decide (String.ofList second < String.ofList first)
  | _ => none

/-- The tests of two words. -/
def binary (reader : Reader) (facts : Facts) (sign : List Char) :
    Option (List Char → List Char → Except Fault Bool) :=
  let sign := String.ofList sign
  match textComparison reader sign, comparison sign, fileComparison facts sign with
  | some compare, _, _ => some fun first second => .ok (compare first second)
  | _, some compare, _ =>
      some fun first second =>
        let known := fun word : List Char =>
          (number? word).filter fun value => reader = .program || isSmall value
        match known first, known second with
        | some x, some y => .ok (compare x y)
        | none, _ => .error (.notNumber first)
        | some _, none => .error (.notNumber second)
  | _, _, some compare => some fun first second => .ok (compare first second)
  | none, none, none => none

/-- What a part of a condition answers, with the words after it, or why it is none. -/
abbrev Answer := Except Fault (Bool × List (List Char))

/-- Whether a word is a sign for one operand. -/
def isUnary (reader : Reader) (word : List Char) : Bool :=
  (unarySigns reader).contains (String.ofList word)

namespace Counted

/-- What is read: the reader, the facts, and the word after the last one. -/
structure Context where
  /-- How words are read. -/
  reader : Reader
  /-- The surroundings. -/
  facts : Facts
  /-- The word that closes the condition, if it is one between brackets. -/
  closing : Option (List Char)
  /-- The last word. -/
  last : List Char

/-- The test of two words after a sign for one operand. -/
def two (context : Context) (first second : List Char) : Except Fault Bool :=
  if first = ['!'] then .ok second.isEmpty
  else if isUnary context.reader first then
    .ok (holdsUnary context.facts (String.ofList first) second)
  else
    match context.reader, first with
    | .program, ['-', _] => .error (.notUnary first)
    | .program, _ => .error (.missing second)
    | _, _ => .error (.notUnary first)

/-- The test of three words. -/
def three (context : Context) (first second third : List Char) : Except Fault Bool :=
  match binary context.reader context.facts second with
  | some test => test first third
  | none =>
      if first = ['!'] then (two context second third).map not
      else if first = ['('] ∧ third = [')'] then .ok (!second.isEmpty)
      else if second = "-a".toList then .ok (!first.isEmpty && !third.isEmpty)
      else if second = "-o".toList then .ok (!first.isEmpty || !third.isEmpty)
      else .error (.notBinary second)

/-- The fault of a condition that ends too early. -/
def beyond (context : Context) : Fault :=
  .missing context.last

mutual

/-- Reads conditions of which one has to hold. -/
def disjunction (context : Context) : Nat → List (List Char) → Answer
  | 0, _ => .error (beyond context)
  | fuel + 1, words =>
      match conjunction context fuel words with
      | .ok (first, ['-', 'o'] :: rest) =>
          if rest.isEmpty then .error (beyond context)
          else (disjunction context fuel rest).map fun found => (first || found.1, found.2)
      | answer => answer

/-- Reads conditions all of which have to hold. -/
def conjunction (context : Context) : Nat → List (List Char) → Answer
  | 0, _ => .error (beyond context)
  | fuel + 1, words =>
      match single context fuel words with
      | .ok (first, ['-', 'a'] :: rest) =>
          if rest.isEmpty then .error (beyond context)
          else (conjunction context fuel rest).map fun found => (first && found.1, found.2)
      | answer => answer

/-- Reads one test. -/
def single (context : Context) : Nat → List (List Char) → Answer
  | 0, _ => .error (beyond context)
  | fuel + 1, words =>
      match words with
      | [] => .error (beyond context)
      | ['!'] :: rest =>
          if rest.isEmpty then .error (beyond context)
          else (single context fuel rest).map fun found => (!found.1, found.2)
      | ['('] :: rest =>
          if rest.isEmpty then .error (beyond context)
          else
            match disjunction context fuel rest with
            | .ok (holds, [')'] :: rest) => .ok (holds, rest)
            | .ok (_, word :: _) => .error (.unclosed (some word))
            | .ok (_, []) => .error (.unclosed context.closing)
            | .error fault => .error fault
      | first :: rest =>
          let compared : Option Answer :=
            match rest with
            | sign :: second :: after =>
                (binary context.reader context.facts sign).map fun test =>
                  (test first second).map fun holds => (holds, after)
            | _ => none
          match compared, rest with
          | some answer, _ => answer
          | none, second :: after =>
              if isUnary context.reader first then
                .ok (holdsUnary context.facts (String.ofList first) second, after)
              else .ok (!first.isEmpty, rest)
          | none, [] => .ok (!first.isEmpty, [])

end

/-- Whether a condition of any number of words holds. -/
def all (context : Context) (words : List (List Char)) : Except Fault Bool :=
  match disjunction context (8 * words.length + 8) words with
  | .ok (holds, []) => .ok holds
  | .ok (_, word :: _) => .error (.extra word)
  | .error fault => .error fault

/-- Whether a condition holds. -/
def evaluate (context : Context) (words : List (List Char)) : Except Fault Bool :=
  match words with
  | [] => .ok false
  | [only] => .ok (!only.isEmpty)
  | [first, second] => two context first second
  | [first, second, third] => three context first second third
  | [first, second, third, fourth] =>
      if first = ['!'] then (three context second third fourth).map not
      else if first = ['('] ∧ fourth = [')'] then two context second third
      else all context words
  | words => all context words

end Counted

namespace Lexed

/-- What a word is, seen together with those after it. -/
inductive Kind where
  /-- There is no word. -/
  | nothing
  /-- An operand. -/
  | operand
  /-- A sign for one operand. -/
  | unary
  /-- A sign for two operands. -/
  | binary
  /-- "Not". -/
  | opposite
  /-- "And". -/
  | both
  /-- "Or". -/
  | either
  /-- An opening parenthesis. -/
  | opening
  /-- A closing parenthesis. -/
  | closing
  deriving DecidableEq

/-- What a word may be by itself. -/
def kindOf (facts : Facts) (word : List Char) : Kind :=
  match String.ofList word with
  | "!" => .opposite
  | "-a" => .both
  | "-o" => .either
  | "(" => .opening
  | ")" => .closing
  | _ =>
      if isUnary .plain word then .unary
      else if (Condition.binary .plain facts word).isSome then .binary
      else .operand

/-- What the first of some words is. -/
def lex (facts : Facts) (words : List (List Char)) : Kind :=
  match words with
  | [] => .nothing
  | word :: rest =>
      let kind := kindOf facts word
      let isOperand : Bool := match rest with
        | [] => true
        | [_] => false
        | second :: _ => kindOf facts second == .binary
      if kind = .unary ∧ isOperand then .operand
      else if kind = .opening ∧ rest.isEmpty then .operand
      else kind

/-- What a part of a condition answers, with the words from its last one on. -/
abbrev Step := Except Fault (Bool × List (List Char))

mutual

/-- Reads conditions of which one has to hold. -/
def either (facts : Facts) : Nat → Kind → List (List Char) → Step
  | 0, _, words => .ok (false, words)
  | fuel + 1, kind, words => do
      let (first, words) ← both facts fuel kind words
      if lex facts (words.drop 1) = .either then
        let rest := words.drop 2
        let (second, words) ← either facts fuel (lex facts rest) rest
        return (first || second, words)
      else return (first, words)

/-- Reads conditions all of which have to hold. -/
def both (facts : Facts) : Nat → Kind → List (List Char) → Step
  | 0, _, words => .ok (false, words)
  | fuel + 1, kind, words => do
      let (first, words) ← opposite facts fuel kind words
      if lex facts (words.drop 1) = .both then
        let rest := words.drop 2
        let (second, words) ← both facts fuel (lex facts rest) rest
        return (first && second, words)
      else return (first, words)

/-- Reads a condition that may be turned round. -/
def opposite (facts : Facts) : Nat → Kind → List (List Char) → Step
  | 0, _, words => .ok (false, words)
  | fuel + 1, kind, words =>
      if kind ≠ .opposite then single facts fuel kind words
      else do
        let rest := words.drop 1
        let kind := lex facts rest
        let (holds, words) ← opposite facts fuel kind (if kind = .nothing then words else rest)
        return (!holds, words)

/-- Reads one test. -/
def single (facts : Facts) : Nat → Kind → List (List Char) → Step
  | 0, _, words => .ok (false, words)
  | fuel + 1, kind, words =>
      match kind with
      | .nothing => .ok (false, words)
      | .opening => do
          let rest := words.drop 1
          if lex facts rest = .closing then return (false, rest)
          else
            let (holds, words) ← either facts fuel (lex facts rest) rest
            let rest := words.drop 1
            if lex facts rest = .closing then return (holds, rest)
            else .error (.unclosed none)
      | .unary =>
          match words with
          | sign :: word :: rest =>
              if sign = "-t".toList then
                match number? word with
                | some _ => .ok (false, word :: rest)
                | none => .error (.notNumber word)
              else .ok (holdsUnary facts (String.ofList sign) word, word :: rest)
          | sign :: [] => .error (.missing sign)
          | [] => .ok (false, [])
      | _ =>
          match words with
          | first :: sign :: rest =>
              if lex facts (sign :: rest) = .binary then
                match rest, Condition.binary .plain facts sign with
                | second :: _, some test => (test first second).map fun holds => (holds, rest)
                | _, _ => .error (.missing sign)
              else .ok (!first.isEmpty, words)
          | first :: [] => .ok (!first.isEmpty, words)
          | [] => .ok (false, [])

end

/-- Whether a condition holds. -/
def evaluate (facts : Facts) (words : List (List Char)) : Except Fault Bool :=
  let fuel := 8 * words.length + 8
  let finish := fun (turned : Bool) (step : Step) =>
    match step with
    | .error fault => (.error fault : Except Fault Bool)
    | .ok (_, word :: _ :: _) => .error (.unexpected word)
    | .ok (holds, _) => .ok (holds != turned)
  let isCompared : Bool := match words with
    | [_, sign, _] => kindOf facts sign == .binary
    | _ => false
  if words.isEmpty then .ok false
  else if isCompared then finish false (either facts fuel .operand words)
  else if words.length = 3 ∨ words.length = 4 then
    if words.head? = some ['('] ∧ words.getLast? = some [')'] then
      let inner := (words.drop 1).dropLast
      finish false (either facts fuel (lex facts inner) inner)
    else if words.head? = some ['!'] then
      let inner := words.drop 1
      finish true (either facts fuel (lex facts inner) inner)
    else finish false (either facts fuel (lex facts words) words)
  else finish false (either facts fuel (lex facts words) words)

end Lexed

/-- Whether a condition holds.  No words do not hold.  The word that closes a condition between
brackets may be found inside it. -/
def evaluate (reader : Reader) (facts : Facts) (closing : Option (List Char))
    (words : List (List Char)) : Except Fault Bool :=
  match reader with
  | .plain => Lexed.evaluate facts words
  | reader => Counted.evaluate ⟨reader, facts, closing, words.getLast?.getD []⟩ words

/-- Whether the condition of a command holds.  Under the name of a bracket its last argument
closes the condition. -/
def ofCommand (reader : Reader) (facts : Facts) (isBracket : Bool) (words : List (List Char)) :
    Except Fault Bool :=
  if isBracket then
    match words.reverse with
    | [']'] :: rest => evaluate reader facts (some [']']) rest.reverse
    | _ => .error .open_
  else evaluate reader facts none words

end Condition
end Shell
end Snippets
