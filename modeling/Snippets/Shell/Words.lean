import Snippets.Shell.Command
import Snippets.Shell.Octets

/-!
# The characters of words

A word goes on up to a space or an operator.  Quotes and backslashes take the meaning
from characters, and a dollar sign or a backquote starts an expansion.  Here is what can be
told about these characters without reading the commands inside of an expansion.
-/

namespace Snippets
namespace Shell
namespace Words

/-- What is being read. -/
inductive Mode where
  /-- A word, up to a space or an operator. -/
  | word
  /-- Text between double quotes. -/
  | double
  /-- The operand of a parameter, up to a closing brace. -/
  | operand
  /-- The operand of a parameter between double quotes. -/
  | doubleOperand
  /-- A text to its end. -/
  | text
  /-- The inside of parentheses in a pattern, up to the closing one. -/
  | group
  /-- A regular expression, up to a space. -/
  | expression
  /-- A text to its end, in which spaces stand for themselves and quotes do not. -/
  | loose
  deriving DecidableEq, Repr

/-- Whether a character ends a word. -/
def isMeta (character : Char) : Bool :=
  " \t\n;&|<>()".toList.contains character

/-- Whether a character may start a name. -/
def startsName (character : Char) : Bool :=
  character.isAlpha || character = '_'

/-- Whether a character may be part of a name. -/
def isName (character : Char) : Bool :=
  character.isAlphanum || character = '_'

/-- Whether a text is a name as a whole. -/
def isWholeName (text : List Char) : Bool :=
  text.head?.any startsName && text.all isName

/-- Whether a character is the name of a parameter that the shell sets. -/
def isSpecial (character : Char) : Bool :=
  "?#@*$!-".toList.contains character

mutual

/-- What follows the closing quote of double quotes. -/
def afterDouble : Nat → List Char → Option (List Char)
  | 0, _ => none
  | fuel + 1, rest =>
      match rest with
      | [] => none
      | '"' :: rest => some rest
      | '\\' :: _ :: rest => afterDouble fuel rest
      | '$' :: '(' :: rest => (afterClosing fuel ')' rest).bind (afterDouble fuel)
      | '$' :: '\x7b' :: rest => (afterClosing fuel '\x7d' rest).bind (afterDouble fuel)
      | _ :: rest => afterDouble fuel rest

/-- What follows the character that closes what has been opened before a text. -/
def afterClosing : Nat → Char → List Char → Option (List Char)
  | 0, _, _ => none
  | fuel + 1, closing, rest =>
      match rest with
      | [] => none
      | '\\' :: _ :: rest => afterClosing fuel closing rest
      | '\'' :: rest => afterClosing fuel closing ((rest.dropWhile (· != '\'')).drop 1)
      | '"' :: rest => (afterDouble fuel rest).bind (afterClosing fuel closing)
      | '(' :: rest => (afterClosing fuel ')' rest).bind (afterClosing fuel closing)
      | '$' :: '\x7b' :: rest => (afterClosing fuel '\x7d' rest).bind (afterClosing fuel closing)
      | character :: rest =>
          if character = closing then some rest
          else if character = '[' ∧ closing = ']' then
            (afterClosing fuel ']' rest).bind (afterClosing fuel closing)
          else afterClosing fuel closing rest

end

/-- What is before a closing character, and what follows it. -/
def inside (closing : Char) (rest : List Char) : Option (List Char × List Char) :=
  (afterClosing (rest.length + 1) closing rest).map fun after =>
    (rest.take (rest.length - after.length - 1), after)

/-- What is between two pairs of parentheses, and what follows them. -/
def inDoubleParen (rest : List Char) : Option (List Char × List Char) :=
  match inside ')' rest with
  | some (inside, ')' :: after) => some (inside, after)
  | _ => none

/-- What follows the two parentheses that close an expression of the plain shell.  A single one
that closes nothing is part of the expression. -/
def afterExpression : Nat → List Char → Option (List Char)
  | 0, _ => none
  | fuel + 1, rest =>
      match rest with
      | [] => none
      | '\\' :: _ :: rest => afterExpression fuel rest
      | '"' :: rest => (afterDouble fuel rest).bind (afterExpression fuel)
      | '(' :: rest => (afterClosing fuel ')' rest).bind (afterExpression fuel)
      | '$' :: '\x7b' :: rest => (afterClosing fuel '\x7d' rest).bind (afterExpression fuel)
      | ')' :: ')' :: rest => some rest
      | _ :: rest => afterExpression fuel rest

/-- An expression after the two parentheses that open it, and what follows it.  What only looks
like one in the shell with the extensions is none. -/
def inExpression (dialect : Dialect) (rest : List Char) : Option (List Char × List Char) :=
  match dialect with
  | .bash => inDoubleParen rest
  | .plain =>
      (afterExpression (rest.length + 1) rest).map fun after =>
        (rest.take (rest.length - after.length - 2), after)

/-- A script between backquotes and what follows it.  Between double quotes a backslash also
takes the meaning from a double quote. -/
def inBackquotes (isDouble : Bool) (found : List Char) :
    List Char → Option (List Char × List Char)
  | [] => none
  | '\x60' :: rest => some (found.reverse, rest)
  | '\\' :: character :: rest =>
      if "\x60\\$".toList.contains character ∨ (isDouble ∧ character = '"') then
        inBackquotes isDouble (character :: found) rest
      else inBackquotes isDouble (character :: '\\' :: found) rest
  | character :: rest => inBackquotes isDouble (character :: found) rest

/-- The characters that letters after a backslash stand for. -/
def letterEscapes : List (Char × Char) :=
  [('n', '\n'), ('t', '\t'), ('r', '\r'), ('a', '\x07'), ('b', '\x08'), ('f', '\x0c'),
   ('v', '\x0b'), ('e', '\x1b'), ('E', '\x1b'), ('\\', '\\')]

/-- The value of a digit of any base up to sixteen. -/
def digitValue (character : Char) : Nat :=
  if character.isDigit then character.toNat - 48
  else if 'a' ≤ character ∧ character ≤ 'f' then character.toNat - 87
  else if 'A' ≤ character ∧ character ≤ 'F' then character.toNat - 55
  else 99

/-- At most a number of digits below a base, their value, and what follows them. -/
def digits (base count : Nat) (rest : List Char) : Option (Nat × List Char) :=
  let found := (rest.take count).takeWhile fun character => digitValue character < base
  if found = [] then none
  else
    some (found.foldl (fun number digit => number * base + digitValue digit) 0,
      rest.drop found.length)

/-- The octets of the character of a code. -/
def ofCode (code : Nat) : List Char :=
  ofBytes (Text.encodeChar (Char.ofNat code))

/-- The octets of an escape after its backslash, and what follows it. -/
def escape? (rest : List Char) : Option (List Char × List Char) :=
  match rest with
  | [] => none
  | letter :: after =>
      match letterEscapes.lookup letter with
      | some octet => some ([octet], after)
      | none =>
          match letter with
          | 'x' => (digits 16 2 after).map fun found => ([Char.ofNat found.1], found.2)
          | 'u' => (digits 16 4 after).map fun found => (ofCode found.1, found.2)
          | 'U' => (digits 16 8 after).map fun found => (ofCode found.1, found.2)
          | _ => (digits 8 3 rest).map fun found => ([Char.ofNat (found.1 % 256)], found.2)

/-- Text between single quotes after a dollar sign, and what follows it. -/
def inDollarQuotes : Nat → List Char → List Char → Option (List Char × List Char)
  | 0, _, _ => none
  | fuel + 1, found, rest =>
      match rest with
      | [] => none
      | '\'' :: rest => some (found.reverse.takeWhile (· != '\x00'), rest)
      | '\\' :: 'c' :: character :: rest =>
          inDollarQuotes fuel (Char.ofNat (character.toUpper.toNat % 64 % 32) :: found) rest
      | '\\' :: rest =>
          match escape? rest with
          | some (octets, rest) => inDollarQuotes fuel (octets.reverse ++ found) rest
          | none =>
              match rest with
              | '\'' :: rest => inDollarQuotes fuel ('\'' :: found) rest
              | '"' :: rest => inDollarQuotes fuel ('"' :: found) rest
              | '?' :: rest => inDollarQuotes fuel ('?' :: found) rest
              | _ => inDollarQuotes fuel ('\\' :: found) rest
      | character :: rest => inDollarQuotes fuel (character :: found) rest

/-- The operations of both shells by the signs that they start with. -/
def commonOperations : List (String × Operation) :=
  [(":-", .default true), (":=", .assign true), (":+", .alternative true),
   (":?", .require true), ("-", .default false), ("=", .assign false),
   ("+", .alternative false), ("?", .require false), ("##", .dropStart true),
   ("#", .dropStart false), ("%%", .dropEnd true), ("%", .dropEnd false)]

/-- The operations of the shell with the extensions. -/
def extraOperations : List (String × Operation) :=
  [("^^", .raise true), ("^", .raise false), (",,", .lower true), (",", .lower false),
   ("~~", .swap true), ("~", .swap false), ("/", .replace), (":", .slice)]

/-- Whether the operand of an operation is read as if no double quotes were around it. -/
def isPattern : Operation → Bool
  | .dropStart _ | .dropEnd _ | .replace | .raise _ | .lower _ | .swap _ => true
  | _ => false

/-- Whether an operation on the number of arguments looks like the length of something that has
none.  That depends on whether an operand follows. -/
def isUncountable (dialect : Dialect) (operation : Operation) (isBare : Bool) : Bool :=
  match dialect, operation with
  | .bash, .raise _ | .bash, .lower _ | .bash, .swap _ => true
  | .bash, .replace | .bash, .slice => isBare
  | _, .dropEnd false | _, .assign false | _, .alternative false => isBare
  | _, _ => false

/-- Whether the value of a parameter may be the name of the one that is meant. -/
def mayBeIndirect (name : List Char) : Bool :=
  match name with
  | [character] => !isSpecial character || "#?@*".toList.contains character
  | _ => true

/-- The letters of transformations. -/
def transformLetters : List Char := "QEPAaUuLKk".toList

/-- The operation after the name of a parameter, and what follows it. -/
def operation (dialect : Dialect) (rest : List Char) : Option (Operation × List Char) :=
  match rest with
  | '\x7d' :: _ => some (.value, rest)
  | '@' :: letter :: '\x7d' :: _ =>
      if dialect = .bash ∧ transformLetters.contains letter then
        some (.transform letter, rest.drop 2)
      else none
  | _ =>
      let known := commonOperations ++ if dialect = .bash then extraOperations else []
      (known.find? fun entry => entry.1.toList.isPrefixOf rest).map fun entry =>
        (entry.2, rest.drop entry.1.length)

/-- The name of a parameter in braces, and what follows it. -/
def bracedName (rest : List Char) : Option (List Char × List Char) :=
  match rest with
  | [] => none
  | character :: after =>
      if startsName character then
        some (rest.takeWhile isName, rest.dropWhile isName)
      else if character.isDigit then
        some (rest.takeWhile Char.isDigit, rest.dropWhile Char.isDigit)
      else if isSpecial character then some ([character], after)
      else none

/-- The parameter that is named in braces, and what follows it. -/
def bracedSubject (dialect : Dialect) (rest : List Char) : Option (Subject × List Char) :=
  match bracedName rest with
  | some (name, '[' :: after) =>
      if dialect = .bash ∧ isWholeName name then
        (inside ']' after).map fun found => (⟨name, some found.1, false⟩, found.2)
      else some (⟨name, none, false⟩, '[' :: after)
  | some (name, after) => some (⟨name, none, false⟩, after)
  | none => none

/-- Adds characters after the parts found, which are in reverse. -/
def addPlain (octets : List Char) : List Part → List Part
  | .plain before :: parts => .plain (before ++ octets) :: parts
  | parts => .plain octets :: parts

/-- Adds quoted characters after the parts found, which are in reverse. -/
def addQuoted (octets : List Char) : List Part → List Part
  | .quoted before :: parts => .quoted (before ++ octets) :: parts
  | parts => .quoted octets :: parts

/-- Whether everything but expansions stands for itself. -/
def isProtected : Mode → Bool
  | .double | .doubleOperand | .text => true
  | .word | .operand | .group | .expression | .loose => false

/-- Whether what is being read may end with the text. -/
def mayEnd : Mode → Bool
  | .word | .text | .expression | .loose => true
  | .double | .operand | .doubleOperand | .group => false

/-- Whether a character has a meaning of its own. -/
def isActive (mode : Mode) (character : Char) : Bool :=
  character = '$' || character = '\x60' || character = '\\' ||
    (match mode with
     | .word => character = '\'' || character = '"' || isMeta character
     | .double => character = '"'
     | .operand => character = '\'' || character = '"' || character = '\x7d'
     | .doubleOperand => character = '"' || character = '\x7d'
     | .text => false
     | .loose => character = '\'' || character = '"'
     | .group => character = '\'' || character = '"' || character = '(' || character = ')'
     | .expression =>
         character = '\'' || character = '"' || " \t\n()".toList.contains character)

/-- Whether a backslash takes the meaning from a character. -/
def isEscapable (mode : Mode) (character : Char) : Bool :=
  match mode with
  | .word | .operand | .group | .expression | .loose => true
  | .double => "$\x60\"\\".toList.contains character
  | .doubleOperand => "$\x60\"\\\x7d".toList.contains character
  | .text => "$\x60\\".toList.contains character

/-- Whether the parts found, which are in reverse, end in a sign that may stand before the
parentheses of a pattern. -/
def endsInSign : List Part → Bool
  | .plain octets :: _ => octets.getLast?.any fun octet => "?*+@!".toList.contains octet
  | _ => false

/-- The characters of a word in which only quotes have a meaning, and whether there are
any. -/
def unquote (parts : List Part) : List Char × Bool :=
  (parts.flatMap fun
    | .plain octets => octets
    | .quoted octets => octets
    | _ => [],
   parts.any fun
    | .quoted _ => true
    | _ => false)

/-- The start of a value for a name: the name, the text between the brackets after it, and
whether the value comes after the one that is there; and what follows the sign. -/
def assignmentStart? (dialect : Dialect) (rest : List Char) :
    Option (List Char × Option (List Char) × Bool × List Char) :=
  let name := rest.takeWhile isName
  let signed := fun (subscript : Option (List Char)) (rest : List Char) =>
    match rest with
    | '=' :: rest => some (name, subscript, false, rest)
    | '+' :: '=' :: rest =>
        if dialect = .bash then some (name, subscript, true, rest) else none
    | _ => none
  if rest.head?.any startsName then
    match rest.drop name.length with
    | '[' :: after =>
        if dialect = .bash then
          (inside ']' after).bind fun found => signed (some found.1) found.2
        else none
    | after => signed none after
  else none

end Words
end Shell
end Snippets
