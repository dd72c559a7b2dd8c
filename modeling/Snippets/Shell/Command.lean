/-!
# The commands of a shell

What a shell script consists of: words with the expansions in them, redirections, and
commands built from other commands.
-/

namespace Snippets
namespace Shell

/-- Which shell reads a script. -/
inductive Dialect where
  /-- The shell with the extensions. -/
  | bash
  /-- The plain shell. -/
  | plain
  deriving DecidableEq, Repr

/-- What is done with the value of a parameter. -/
inductive Operation where
  /-- Nothing. -/
  | value
  /-- Its length is taken. -/
  | length
  /-- The operand takes its place if it is unset, or empty where that counts too. -/
  | default (orEmpty : Bool)
  /-- As before, and the operand becomes its value. -/
  | assign (orEmpty : Bool)
  /-- The operand takes its place unless it is unset, or empty where that counts too. -/
  | alternative (orEmpty : Bool)
  /-- The script ends if it is unset, or empty where that counts too. -/
  | require (orEmpty : Bool)
  /-- The shortest or longest start that matches the operand is left out. -/
  | dropStart (longest : Bool)
  /-- The shortest or longest end that matches the operand is left out. -/
  | dropEnd (longest : Bool)
  /-- What matches the part of the operand before the slash becomes the part after it. -/
  | replace
  /-- The part at a place, of a length if one is given, is taken. -/
  | slice
  /-- The first letter, or every letter, becomes a capital if it matches the operand. -/
  | raise (everywhere : Bool)
  /-- The first letter, or every letter, becomes a small one if it matches the operand. -/
  | lower (everywhere : Bool)
  /-- Capitals and small letters change places, in the first letter or in every one. -/
  | swap (everywhere : Bool)
  /-- What a letter stands for. -/
  | transform (letter : Char)
  /-- The names of variables that start with the name, as one text or each by itself. -/
  | names (joined : Bool)
  /-- The subscripts of the elements, as one text or each by itself. -/
  | keys (joined : Bool)
  /-- Nothing that there is. -/
  | invalid
  deriving DecidableEq, Repr

/-- Whether an operation has a result without a value. -/
def Operation.allowsMissing : Operation → Bool
  | .default _ | .assign _ | .alternative _ | .require _ => true
  | _ => false

/-- A parameter as it is named in an expansion. -/
structure Subject where
  /-- The name. -/
  name : List Char
  /-- The text between the brackets after the name. -/
  subscript : Option (List Char)
  /-- Whether the value is the name of the parameter that is meant. -/
  indirect : Bool
  deriving DecidableEq, Repr, Inhabited

/-- A part of a word. -/
inductive Part where
  /-- Characters that may form patterns. -/
  | plain (octets : List Char)
  /-- Characters that stand for themselves. -/
  | quoted (octets : List Char)
  /-- The value of a parameter, and whether it stays one piece. -/
  | parameter (subject : Subject) (operation : Operation) (operand : List Part)
      (whole : Bool)
  /-- What a script prints, and whether it stays one piece. -/
  | substitution (script : List Char) (whole : Bool)
  /-- The value of an expression, and whether it stays one piece. -/
  | arithmetic (expression : List Part) (whole : Bool)
  /-- The path of a file that a script fills, or of one that it reads. -/
  | process (script : List Char) (isRead : Bool)
  deriving Inhabited

/-- A word before its expansions. -/
structure Word where
  /-- The parts. -/
  parts : List Part
  /-- The word as it is written. -/
  text : List Char
  deriving Inhabited

/-- What a redirection does. -/
inductive Direction where
  /-- A file is read. -/
  | input
  /-- A file is written from its start. -/
  | output
  /-- A file is written from its start, even if it must not be. -/
  | overwrite
  /-- A file is written from its end. -/
  | append
  /-- A file is read and written. -/
  | both
  /-- Another descriptor is used. -/
  | duplicate
  /-- The given text is read. -/
  | here
  /-- The given text and a line feed are read. -/
  | hereLine
  /-- Standard output and errors are both written to a file from its start. -/
  | outputs
  /-- Standard output and errors are both written to a file from its end. -/
  | outputsAppend
  deriving DecidableEq, Repr

/-- The descriptor that a redirection changes. -/
inductive Place where
  /-- The one of a number. -/
  | number (value : Nat)
  /-- A new one, whose number becomes the value of a name. -/
  | named (name : List Char)
  deriving DecidableEq, Repr

/-- A change of a descriptor. -/
structure Redirection where
  /-- The descriptor. -/
  place : Place
  /-- What is done. -/
  direction : Direction
  /-- The file, the other descriptor or the text. -/
  target : Word
  /-- Whether the redirection names its descriptor. -/
  isNumbered : Bool

/-- One element of a list of values. -/
structure Element where
  /-- The text between brackets before the value. -/
  subscript : Option (List Char)
  /-- Whether the value comes after the one that is there. -/
  append : Bool
  /-- The value. -/
  word : Word

/-- What a name is given. -/
inductive Given where
  /-- A value. -/
  | one (word : Word)
  /-- A list of values. -/
  | many (elements : List Element)

/-- A value for a name. -/
structure Assignment where
  /-- The name. -/
  name : List Char
  /-- The text between the brackets after the name. -/
  subscript : Option (List Char)
  /-- Whether the value comes after the one that is there. -/
  append : Bool
  /-- The value. -/
  given : Given

/-- A word of a command after its name. -/
inductive Argument where
  /-- A word. -/
  | word (word : Word)
  /-- A value for a name. -/
  | assignment (assignment : Assignment)

/-- A condition on words. -/
inductive Test where
  /-- A word is not empty. -/
  | word (word : Word)
  /-- A test of one word. -/
  | unary (sign : String) (word : Word)
  /-- A test of two words. -/
  | binary (first : Word) (sign : String) (second : Word)
  /-- The condition does not hold. -/
  | opposite (test : Test)
  /-- Both conditions hold. -/
  | both (first second : Test)
  /-- One of the conditions holds. -/
  | either (first second : Test)
  /-- The condition in parentheses holds. -/
  | group (test : Test)

/-- What follows the body of a case. -/
inductive Ending where
  /-- The choice is over. -/
  | stop
  /-- The next body runs. -/
  | fallThrough
  /-- The next patterns are tried. -/
  | goOn
  deriving DecidableEq, Repr

/-- A command. -/
inductive Command where
  /-- A program, a function or assignments, with the number of its line. -/
  | simple (line : Nat) (assignments : List Assignment) (arguments : List Argument)
      (redirections : List Redirection)
  /-- Commands that pass their output on, and whether the status is turned round. -/
  | pipeline (negated : Bool) (commands : List Command)
  /-- A command whose time is taken, and whether it is told in the portable way. -/
  | timed (isPortable : Bool) (command : Command)
  /-- The second command runs if the first one succeeds. -/
  | both (first second : Command)
  /-- The second command runs if the first one fails. -/
  | either (first second : Command)
  /-- Commands one after the other. -/
  | sequence (commands : List Command)
  /-- A command that nobody waits for. -/
  | background (command : Command)
  /-- A command in a copy of the shell. -/
  | subshell (command : Command)
  /-- A command in braces. -/
  | group (command : Command)
  /-- A command with other descriptors. -/
  | redirected (command : Command) (redirections : List Redirection)
  /-- The branch of the first condition that holds. -/
  | branch (condition first : Command) (second : Option Command)
  /-- A body that is repeated while a condition holds, or until it does. -/
  | loop (opposite : Bool) (condition body : Command)
  /-- A body that is repeated while an expression is not zero, with an expression at the
  start and one after each turn. -/
  | counted (line : Nat) (start condition step : Word) (body : Command)
  /-- A body for each of some words, or for each argument. -/
  | each (line : Nat) (name : List Char) (words : Option (List Word)) (body : Command)
  /-- A body for each choice of one of some words, or of an argument. -/
  | select (line : Nat) (name : List Char) (words : Option (List Word)) (body : Command)
  /-- The body of the first pattern that matches a word. -/
  | choice (line : Nat) (word : Word) (cases : List (List Word × Command × Ending))
  /-- A function. -/
  | define (name : List Char) (body : Command)
  /-- An expression whose value is not zero. -/
  | arithmetic (line : Nat) (expression : Word)
  /-- A condition on words. -/
  | condition (line : Nat) (test : Test)
  deriving Inhabited

/-- Whether a command is a program, a function or assignments. -/
def Command.isSimple : Command → Bool
  | .simple _ _ _ _ => true
  | _ => false

end Shell
end Snippets
