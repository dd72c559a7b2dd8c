import Snippets.Shell.Tool.Search
import Snippets.Shell.Words

/-!
# The commands of an editor of lines

A script is read into commands, each of which may be limited to lines of given numbers, to the
last line, or to lines that match an expression.
-/

namespace Snippets
namespace Shell
namespace Edit

/-- Which line a command is for. -/
inductive Address where
  /-- The line of a number. -/
  | number (value : Nat)
  /-- The line of a number, and each line a step after it. -/
  | step (first step : Nat)
  /-- The last line. -/
  | last
  /-- A line that matches, by the last expression that was used if none is given. -/
  | matching (expression : Option Expression)
  /-- A number of lines after the first one of a range. -/
  | after (count : Nat)
  /-- The next line whose number is a multiple. -/
  | multiple (count : Nat)

/-- What takes the place of a match. -/
inductive Filler where
  /-- Characters. -/
  | text (characters : List Char)
  /-- The text of a group, or of the match as a whole. -/
  | group (number : Nat)
  /-- A sign that changes the letters after it. -/
  | case (letter : Char)

/-- A replacement of matches. -/
structure Replacement where
  /-- The expression, unless it is the last one that was used. -/
  expression : Option Expression
  /-- What takes the place of a match. -/
  fillers : List Filler
  /-- Whether all matches are replaced. -/
  everywhere : Bool
  /-- The number of the first match that is replaced. -/
  first : Nat
  /-- Whether the result is printed. -/
  printed : Bool
  /-- The file that the result is added to. -/
  file : Option (List Char)

/-- What is done with a line. -/
inductive Action where
  /-- Matches are replaced. -/
  | replace (replacement : Replacement)
  /-- Characters are replaced one by one. -/
  | exchange (source target : List Char)
  /-- A command that is a letter. -/
  | letter (letter : Char)
  /-- A command with a text: it is printed before the line, after it, or in its place. -/
  | text (letter : Char) (text : List Char)
  /-- A command with a file. -/
  | file (letter : Char) (path : List Char)
  /-- A command with a number. -/
  | number (letter : Char) (value : Option Nat)
  /-- The place among the commands is another one: that of a label, or the end. -/
  | jump (letter : Char) (label : List Char)
  /-- A label. -/
  | label (name : List Char)
  /-- The start of a group. -/
  | opening
  /-- The end of a group. -/
  | closing

/-- A command. -/
structure Step where
  /-- The first line that it is for. -/
  first : Option Address
  /-- The last line that it is for. -/
  second : Option Address
  /-- Whether it is for all other lines. -/
  opposite : Bool
  /-- What is done. -/
  action : Action

/-- Why a script cannot be read. -/
inductive Trouble where
  /-- Something is wrong at the place where some octets are left. -/
  | at (words : String) (left : Nat)
  /-- Something is wrong with the script as a whole. -/
  | somewhere (words : String)
  /-- Something is wrong that is told without the script. -/
  | bare (words : String)

/-- What has been read from the start of a script, and what is left of it. -/
abbrev Reading (found : Type) := Except Trouble (found × List Char)

/-- The trouble at the place where a text is left. -/
def troubleAt (words : String) (rest : List Char) : Trouble :=
  .at words (ofCharacters rest).length

/-- Skips blank characters. -/
def skip (text : List Char) : List Char :=
  text.dropWhile fun octet => octet = ' ' || octet = '\t'

/-- Skips blank characters, line ends and the signs between commands. -/
def skipLines (text : List Char) : List Char :=
  text.dropWhile fun octet => " \t\n\r\x0b\x0c;".toList.contains octet

/-- How far a set has been read. -/
inductive SetPlace where
  /-- Among its members. -/
  | inside
  /-- After a bracket. -/
  | opened
  /-- In a name after a sign. -/
  | named (sign : Char)
  /-- After the sign that may end a name. -/
  | closing (sign : Char)

/-- Reads a set up to its bracket, which is left.  What is found is in reverse. -/
def setUpTo : SetPlace → List Char → List Char → List Char × List Char
  | _, found, [] => (found, [])
  | place, found, character :: rest =>
      let goOn := fun place : SetPlace => setUpTo place (character :: found) rest
      let isSign := ".:=".toList.contains character
      match place, character with
      | _, '\n' => (found, '\n' :: rest)
      | .inside, ']' | .opened, ']' => (found, ']' :: rest)
      | .closing _, ']' => goOn .inside
      | .inside, '[' => goOn .opened
      | .opened, '[' => goOn .opened
      | .opened, character => goOn (if isSign then .named character else .inside)
      | .named sign, character => goOn (if character = sign then .closing sign else .named sign)
      | .closing sign, character =>
          goOn (if character = sign then .closing sign else .named sign)
      | .inside, _ => goOn .inside

/-- Reads up to a delimiter, from which a backslash takes the meaning.  In a set of an expression
it has none.  What is found is in reverse, and nothing is found if a line ends before. -/
def upTo (delimiter : Char) (isExpression : Bool) :
    Nat → List Char → List Char → Option (List Char) × List Char
  | 0, _, rest => (none, rest)
  | fuel + 1, found, text =>
      match text with
      | [] | ['\\'] => (none, [])
      | '\n' :: rest => if delimiter = '\n' then (some found.reverse, rest) else (none, text)
      | '\\' :: character :: rest =>
          if delimiter = '\\' then (some found.reverse, character :: rest)
          else if character = 'n' && isExpression then
            upTo delimiter isExpression fuel ('\n' :: found) rest
          else if character = '\n' || (character = delimiter && (isExpression || character != '&'))
              then upTo delimiter isExpression fuel (character :: found) rest
          else upTo delimiter isExpression fuel (character :: '\\' :: found) rest
      | character :: rest =>
          if character = delimiter then (some found.reverse, rest)
          else if isExpression && character = '[' then
            let (start, rest) : List Char × List Char := match rest with
              | '^' :: ']' :: rest => (['^', ']'], rest)
              | '^' :: rest => (['^'], rest)
              | ']' :: rest => ([']'], rest)
              | rest => ([], rest)
            match setUpTo .inside (start.reverse ++ character :: found) rest with
            | (found, ']' :: rest) => upTo delimiter isExpression fuel (']' :: found) rest
            | (_, rest) => (none, rest)
          else upTo delimiter isExpression fuel (character :: found) rest

/-- What a text is for in which backslashes stand before letters. -/
inductive Purpose where
  /-- It is a regular expression. -/
  | expression
  /-- It takes the place of a match. -/
  | filling
  /-- It is printed. -/
  | printing
  deriving DecidableEq

/-- The characters that letters after backslashes stand for. -/
def controls : List (Char × Char) :=
  [('a', '\x07'), ('f', '\x0c'), ('n', '\n'), ('r', '\r'), ('t', '\t'), ('v', '\x0b')]

/-- The letters before numbers of octets, with their bases and the greatest numbers of digits. -/
def numerals : List (Char × Nat × Nat) := [('d', 10, 3), ('o', 8, 3), ('x', 16, 2)]

/-- Octets in which those stand that letters after backslashes stand for. -/
def converted (purpose : Purpose) : Nat → List Char → List Char
  | 0, text => text
  | fuel + 1, text =>
      let goOn := converted purpose fuel
      match text with
      | ['\\', 'c'] => if purpose = .printing then [] else ['\\']
      | '\\' :: 'c' :: '\\' :: '\\' :: rest => '\x1c' :: goOn rest
      | '\\' :: 'c' :: letter :: rest =>
          Char.ofNat (letter.toUpper.toNat ^^^ 64) :: goOn rest
      | '\\' :: letter :: rest =>
          match controls.lookup letter, numerals.lookup letter with
          | some octet, _ => octet :: goOn rest
          | none, some (base, most) =>
              match Words.digits base most rest with
              | some (code, rest) =>
                  let octet := Char.ofNat (code % 256)
                  if purpose = .filling && ['&', '\\', '\n'].contains octet then
                    '\\' :: octet :: goOn rest
                  else octet :: goOn rest
              | none => letter :: goOn rest
          | none, none =>
              if purpose = .printing then letter :: goOn rest
              else '\\' :: letter :: goOn rest
      | octet :: rest => octet :: goOn rest
      | [] => []

/-- A text in which characters stand that letters after backslashes stand for. -/
def convert (purpose : Purpose) (text : List Char) : List Char :=
  let octets := ofCharacters text
  characters (converted purpose (octets.length + 1) octets)

/-- How regular expressions are written. -/
def grammarOf (extended : Bool) : Grammar :=
  (Grammar.careful extended).withoutBareNames

/-- The expression of a text, before which a script is left. -/
def expressionOf (extended : Bool) (flags text rest : List Char) :
    Except Trouble (Option Expression) :=
  if text.isEmpty then
    if flags.isEmpty then .ok none
    else .error (troubleAt "cannot specify modifiers on empty regexp" rest)
  else
    match Expression.ofText (grammarOf extended) (convert .expression text) with
    | .error .bareName => .error (.bare Fault.bareName.words)
    | .error fault => .error (troubleAt fault.words rest)
    | .ok expression =>
        let expression := if flags.contains 'I' || flags.contains 'i' then expression.foldCase
          else expression
        let isMultiline := flags.contains 'M' || flags.contains 'm'
        .ok (some { expression with multiline := isMultiline })

/-- The number that digits after blank characters spell, or zero if there are none. -/
def count (rest : List Char) : Nat × List Char :=
  let digits := (skip rest).takeWhile Char.isDigit
  ((toNat? digits).getD 0, (skip rest).drop digits.length)

/-- The flags of an address, and what follows them. -/
def addressFlags : Nat → List Char → List Char × List Char
  | 0, rest => ([], rest)
  | fuel + 1, rest =>
      match skip rest with
      | 'I' :: rest => let (flags, rest) := addressFlags fuel rest; ('I' :: flags, rest)
      | 'M' :: rest => let (flags, rest) := addressFlags fuel rest; ('M' :: flags, rest)
      | rest => ([], rest)

/-- Reads an address, if one is there. -/
def address? (extended : Bool) (text : List Char) : Reading (Option Address) :=
  let matching := fun (delimiter : Char) (rest : List Char) =>
    match upTo delimiter true (rest.length + 1) [] rest with
    | (none, rest) =>
        (.error (troubleAt "unterminated address regex" rest) : Reading (Option Address))
    | (some inside, rest) =>
        let (flags, rest) := addressFlags (rest.length + 1) rest
        (expressionOf extended flags inside rest).map fun expression =>
          (some (.matching expression), rest)
  match text with
  | '$' :: rest => .ok (some .last, rest)
  | '/' :: rest => matching '/' rest
  | ['\\'] => .error (troubleAt "unterminated address regex" [])
  | '\\' :: delimiter :: rest => matching delimiter rest
  | '+' :: rest => let (value, rest) := count rest; .ok (some (.after value), rest)
  | '~' :: rest => let (value, rest) := count rest; .ok (some (.multiple value), rest)
  | text =>
      let digits := text.takeWhile Char.isDigit
      match toNat? digits, skip (text.drop digits.length) with
      | none, _ => .ok (none, text)
      | some first, '~' :: rest =>
          let (step, rest) := count rest
          .ok (some (if step = 0 then .number first else .step first step), rest)
      | some number, rest => .ok (some (.number number), rest)

/-- The text of a command up to a line end from which no backslash takes the meaning.  What is
found is in reverse. -/
def textLines (found : List Char) : List Char → List Char × List Char
  | [] | ['\\'] => (found.reverse, [])
  | '\\' :: character :: rest => textLines (character :: '\\' :: found) rest
  | '\n' :: rest => (found.reverse, rest)
  | character :: rest => textLines (character :: found) rest

/-- The text of a command that prints one, unless there is none. -/
def textArgument (rest : List Char) : Option (List Char × List Char) :=
  let ended := fun rest : List Char =>
    let (text, rest) := textLines [] rest
    some (convert .printing text ++ ['\n'], rest)
  match skip rest with
  | [] => none
  | '\n' :: rest => some (['\n'], rest)
  | '\\' :: more =>
      match skip more with
      | '\n' :: [] => some ([], [])
      | '\n' :: lines => ended lines
      | [] => some ([], [])
      | other =>
          -- A backslash before the text keeps the blanks after it.
          ended (if more.head?.any fun octet => octet = ' ' || octet = '\t' then more else other)
  | rest => ended rest

/-- Reads what takes the place of a match. -/
def fillers : List Char → List Filler
  | [] => []
  | '&' :: rest => .group 0 :: fillers rest
  | '\\' :: letter :: rest =>
      (if letter.isDigit then .group (letter.toNat - 48)
        else if "LUluE".toList.contains letter then .case letter
        else .text [letter]) :: fillers rest
  | character :: rest => .text [character] :: fillers rest

/-- The greatest number of a group among what takes the place of a match. -/
def greatestGroup (fillers : List Filler) : Nat :=
  fillers.foldl
    (fun most filler =>
      match filler with
      | .group number => max most number
      | _ => most)
    0

/-- The words for a group that an expression does not have. -/
def missingGroup (number : Nat) : String :=
  "invalid reference \\" ++ toString number ++ " on \x60s' command's RHS"

/-- The path at the end of a command. -/
def pathArgument (rest : List Char) : Reading (List Char) :=
  let path := (skip rest).takeWhile (· != '\n')
  let rest := (skip rest).drop path.length
  if path.isEmpty then .error (troubleAt "missing filename in r/R/w/W commands" rest)
  else .ok (path, rest)

/-- The flags of a replacement. -/
structure Flags where
  /-- Whether all matches are replaced. -/
  everywhere : Bool
  /-- Whether the result is printed. -/
  printed : Bool
  /-- The number of the first match that is replaced. -/
  first : Option Nat
  /-- The letters that say how the expression is read. -/
  modifiers : List Char
  /-- The file that the result is added to. -/
  file : Option (List Char)

/-- Reads the flags of a replacement. -/
def flags? : Nat → Flags → List Char → Reading Flags
  | 0, flags, rest => .ok (flags, rest)
  | fuel + 1, flags, rest =>
      match skip rest with
      | [] => .ok (flags, [])
      | letter :: rest =>
          if "iImM".toList.contains letter then
            flags? fuel { flags with modifiers := letter :: flags.modifiers } rest
          else if letter = 'e' then flags? fuel flags rest
          else if letter = 'p' then
            if flags.printed then
              .error (troubleAt "multiple \x60p' options to \x60s' command" rest)
            else flags? fuel { flags with printed := true } rest
          else if letter = 'g' then
            if flags.everywhere then
              .error (troubleAt "multiple \x60g' options to \x60s' command" rest)
            else flags? fuel { flags with everywhere := true } rest
          else if letter = 'w' then
            (pathArgument rest).map fun (path, rest) => ({ flags with file := some path }, rest)
          else if letter.isDigit then
            if flags.first.isSome then
              .error (troubleAt "multiple number options to \x60s' command" rest)
            else
              let (number, rest) := count (letter :: rest)
              if number = 0 then
                .error (troubleAt "number option to \x60s' command may not be zero" rest)
              else flags? fuel { flags with first := some number } rest
          else if letter = '\x7d' || letter = '#' then .ok (flags, letter :: rest)
          else if letter = '\n' || letter = ';' then .ok (flags, rest)
          else if letter = '\r' && rest.head? = some '\n' then .ok (flags, rest.drop 1)
          else .error (troubleAt "unknown option to \x60s'" rest)

/-- Reads a delimiter. -/
def delimiter? (rest : List Char) : Reading (Option Char) :=
  match rest with
  | [] => .ok (none, [])
  | delimiter :: rest =>
      if delimiter.toNat < 0x80 then .ok (some delimiter, rest)
      else .error (troubleAt "delimiter character is not a single-byte character" rest)

/-- Reads the two texts of a command, each of them up to a delimiter. -/
def pair? (letter : Char) (isExpression : Bool) (rest : List Char) :
    Except Trouble ((List Char × List Char) × List Char) := do
  let unterminated := fun rest : List Char =>
    (.error (troubleAt ("unterminated \x60" ++ String.singleton letter ++ "' command") rest) :
      Reading (List Char × List Char))
  match ← delimiter? rest with
  | (none, rest) => unterminated rest
  | (some delimiter, rest) =>
      match upTo delimiter isExpression (rest.length + 1) [] rest with
      | (none, rest) => unterminated rest
      | (some first, rest) =>
          match upTo delimiter false (rest.length + 1) [] rest with
          | (none, rest) => unterminated rest
          | (some second, rest) => return ((first, second), rest)

/-- Reads a replacement after its letter. -/
def replacement? (extended : Bool) (rest : List Char) :
    Except Trouble (Replacement × List Char) := do
  let ((pattern, target), rest) ← pair? 's' true rest
  let (flags, rest) ← flags? (rest.length + 1) ⟨false, false, none, [], none⟩ rest
  let expression ← expressionOf extended flags.modifiers pattern rest
  let fillers := fillers (convert .filling target)
  let greatest := greatestGroup fillers
  if expression.any fun expression => expression.count < greatest then
    .error (troubleAt (missingGroup greatest) rest)
  else
    return (⟨expression, fillers, flags.everywhere, flags.first.getD 1, flags.printed, flags.file⟩,
      rest)

/-- Skips the end of a command. -/
def endOfCommand (rest : List Char) : Except Trouble (List Char) :=
  match skip rest with
  | [] => .ok []
  | octet :: rest =>
      if octet = '\x7d' || octet = '#' then .ok (octet :: rest)
      else if octet = '\n' || octet = ';' then .ok rest
      else .error (troubleAt "extra characters after command" rest)

/-- The word after a command that names a place. -/
def word (rest : List Char) : List Char × List Char :=
  let word := (skip rest).takeWhile fun octet => !" \t\n\r\x0b\x0c;\x7d".toList.contains octet
  (word, (skip rest).drop word.length)

/-- Whether a version is none that comes later. -/
def isKnownVersion (version : List Char) : Bool :=
  match (splitAt '.' version).map toNat? with
  | some major :: some minor :: rest =>
      rest.all Option.isSome && (major < 4 || (major = 4 && minor ≤ 9))
  | _ => version.isEmpty

/-- Reads what is done. -/
def action? (extended hasRange hasAddress : Bool) (text : List Char) :
    Except Trouble (Action × List Char) := do
  match text with
  | [] => .error (troubleAt "missing command" [])
  | 's' :: rest =>
      let (replacement, rest) ← replacement? extended rest
      return (.replace replacement, rest)
  | 'y' :: rest =>
      let ((source, target), rest) ← pair? 'y' false rest
      let source := convert .printing source
      let target := convert .printing target
      if source.length ≠ target.length then
        .error (troubleAt "strings for \x60y' command are different lengths" rest)
      else return (.exchange source target, ← endOfCommand rest)
  | '\x7b' :: rest => return (.opening, rest)
  | '\x7d' :: rest =>
      if hasAddress then .error (troubleAt "\x60\x7d' doesn't want any addresses" rest)
      else return (.closing, ← endOfCommand rest)
  | ':' :: rest =>
      if hasAddress then .error (troubleAt ": doesn't want any addresses" rest)
      else
        let (label, rest) := word rest
        if label.isEmpty then .error (troubleAt "\":\" lacks a label" rest)
        else return (.label label, rest)
  | '#' :: rest =>
      if hasAddress then .error (troubleAt "comments don't accept any addresses" rest)
      else return (.letter '#', rest.dropWhile (· != '\n'))
  | letter :: rest =>
      if "btT".toList.contains letter then
        let (label, rest) := word rest
        return (.jump letter label, rest)
      else if "aic".toList.contains letter then
        match textArgument rest with
        | some (text, rest) => return (.text letter text, rest)
        | none =>
            .error (troubleAt "expected \\ after \x60a', \x60c' or \x60i'" ((skip rest).drop 1))
      else if "rRwW".toList.contains letter then
        let (path, rest) ← pathArgument rest
        return (.file letter path, rest)
      else if "qQlL".toList.contains letter then
        if hasRange && (letter = 'q' || letter = 'Q') then
          .error (troubleAt "command only uses one address" rest)
        else
          let digits := (skip rest).takeWhile Char.isDigit
          return (.number letter (toNat? digits),
            ← endOfCommand ((skip rest).drop digits.length))
      else if "=dDgGhHnNpPxzF".toList.contains letter then
        return (.letter letter, ← endOfCommand rest)
      else if letter = 'e' then return (.letter letter, rest.dropWhile (· != '\n'))
      else if letter = 'v' then
        let (version, rest) := word rest
        if isKnownVersion version then return (.letter 'v', rest)
        else .error (troubleAt "expected newer version of sed" rest)
      else
        .error (troubleAt ("unknown command: \x60" ++ toText (ofCharacters [letter]) ++ "'") rest)

/-- Reads the addresses of a command. -/
def addresses? (extended : Bool) (text : List Char) :
    Except Trouble ((Option Address × Option Address) × List Char) := do
  let (first, rest) ← address? extended text
  match first with
  | none => return ((none, none), rest)
  | some first =>
      let isRelative : Bool := match first with
        | .after _ | .multiple _ => true
        | _ => false
      if isRelative then
        .error (troubleAt "invalid usage of +N or ~N as first address" rest)
      else
        let (second, rest) ← match skip rest with
          | ',' :: rest => do
              match ← address? extended (skip rest) with
              | (none, rest) => .error (troubleAt "unexpected \x60,'" (rest.drop 1))
              | (second, rest) => pure (second, rest)
          | rest => pure (none, rest)
        let isMeaningless : Bool := match first, second with
          | .number 0, some (.matching _) => false
          | .number 0, _ => true
          | _, _ => false
        if isMeaningless then
          .error (troubleAt "invalid usage of line address 0" ((skip rest).drop 1))
        else return ((some first, second), rest)

/-- Reads the commands of a script after those found, which are in reverse. -/
def steps? (extended : Bool) : Nat → List Step → Nat → List Char → Except Trouble (List Step)
  | 0, found, _, _ => .ok found.reverse
  | fuel + 1, found, depth, text =>
      match skipLines text with
      | [] =>
          if depth = 0 then .ok found.reverse
          else .error (.somewhere "unmatched \x60\x7b'")
      | text => do
          let ((first, second), rest) ← addresses? extended text
          let (opposite, rest) ← match skip rest with
            | '!' :: rest =>
                match skip rest with
                | '!' :: rest => .error (troubleAt "multiple \x60!'s" rest)
                | rest => pure (true, rest)
            | rest => pure (false, rest)
          if rest.head? = some '\x7d' && depth = 0 then
            .error (troubleAt "unexpected \x60\x7d'" (rest.drop 1))
          else
            let (action, rest) ← action? extended second.isSome first.isSome rest
            let step : Step := ⟨first, second, opposite, action⟩
            match action with
            | .opening => steps? extended fuel (step :: found) (depth + 1) rest
            | .closing => steps? extended fuel (step :: found) (depth - 1) rest
            | .letter '#' => steps? extended fuel found depth rest
            | _ => steps? extended fuel (step :: found) depth rest

end Edit
end Shell
end Snippets
