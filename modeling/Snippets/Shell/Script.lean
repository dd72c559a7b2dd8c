import Snippets.Shell.Words

/-!
# Reading scripts

A script is read command by command, each up to the end of its line.  What is wrong with
a command shows only when it is read, after the commands before it have been run.
-/

namespace Snippets
namespace Shell

/-- How a script is read. -/
structure Reading where
  /-- The shell that reads. -/
  dialect : Dialect
  /-- The number of the last line. -/
  lastLine : Nat
  /-- The words that stand for other text at the start of a command. -/
  aliases : List (List Char × List Char)
  /-- Whether patterns may have parentheses. -/
  extended : Bool

namespace Script

/-- The number of line feeds in a text. -/
def countLines (text : List Char) : Nat :=
  text.count '\n'

/-- The number of the line at which a rest of the script starts. -/
def lineOf (reading : Reading) (rest : List Char) : Nat :=
  reading.lastLine - countLines rest

/-- Skips spaces, tabs and line breaks after a backslash. -/
def skipSpaces : List Char → List Char
  | ' ' :: rest => skipSpaces rest
  | '\t' :: rest => skipSpaces rest
  | '\\' :: '\n' :: rest => skipSpaces rest
  | rest => rest

/-- Skips spaces and a comment. -/
def skipBlank (rest : List Char) : List Char :=
  match skipSpaces rest with
  | '#' :: rest => rest.dropWhile (· != '\n')
  | rest => rest

/-- Skips line breaks, spaces and comments. -/
def skipLines : Nat → List Char → List Char
  | 0, rest => rest
  | fuel + 1, rest =>
      match skipBlank rest with
      | '\n' :: rest => skipLines fuel rest
      | rest => rest

/-- The words that have a meaning at the start of a command. -/
def reserved : List String :=
  ["if", "then", "elif", "else", "fi", "while", "until", "do", "done", "for", "in", "case",
   "esac", "\x7b", "\x7d", "!"]

/-- The words that have one in the shell with the extensions alone. -/
def extraReserved : List String :=
  ["[[", "]]", "function", "select", "time", "coproc"]

/-- Whether a word has a meaning in the language of a shell. -/
def isReserved (dialect : Dialect) (word : List Char) : Bool :=
  let word := String.ofList word
  reserved.contains word || (dialect = .bash && extraReserved.contains word)

/-- The word of letters and signs at the start of a text. -/
def bareWord (rest : List Char) : List Char :=
  rest.takeWhile fun character =>
    !(Words.isMeta character || "\\'\"$\x60".toList.contains character)

/-- Whether a text starts with a word and nothing that would make it longer. -/
def startsWith (word : String) (rest : List Char) : Bool :=
  let found := bareWord rest
  found == word.toList &&
    (match rest.drop found.length with
     | [] => true
     | next :: _ => Words.isMeta next)

/-- What follows a reserved word. -/
def expect (word : String) (rest : List Char) : Option (List Char) :=
  let rest := skipLines (rest.length + 1) rest
  if startsWith word rest then some (rest.drop word.length) else none

/-- The lines of a text up to a line that holds a mark, and what follows that line.  Tabs
at the start of lines are left out where that is wanted. -/
def hereLines (mark : List Char) (noTabs : Bool) :
    Nat → List Char → List Char → List Char × List Char
  | 0, found, rest => (found.reverse, rest)
  | fuel + 1, found, rest =>
      if rest = [] then (found.reverse, [])
      else
        let line := rest.takeWhile (· != '\n')
        let after := rest.drop line.length
        let line := if noTabs then line.dropWhile (· = '\t') else line
        if line = mark then (found.reverse, after.drop 1)
        else
          let feed := if after = [] then [] else ['\n']
          hereLines mark noTabs fuel (feed ++ (line.reverse ++ found)) (after.drop 1)

/-- A text in which words at the start of a command have given way to what they stand for.
A word that is being replaced is not replaced again. -/
def expandAlias (reading : Reading) : Nat → List (List Char) → List Char → List Char
  | 0, _, rest => rest
  | fuel + 1, active, rest =>
      let word := bareWord rest
      if word.isEmpty ∨ active.contains word ∨ !startsWith (String.ofList word) rest then rest
      else
        match reading.aliases.lookup word with
        | none => rest
        | some text =>
            let after := rest.drop word.length
            let endsBlank := text.getLast?.any fun octet => octet = ' ' || octet = '\t'
            let after :=
              if endsBlank then
                let next := skipSpaces after
                after.take (after.length - next.length) ++ expandAlias reading fuel [] next
              else after
            expandAlias reading fuel (word :: active) (text ++ after)

/-- A text at the start of a command with aliases expanded. -/
def atCommand (reading : Reading) (rest : List Char) : List Char :=
  if reading.aliases.isEmpty then rest
  else expandAlias reading (reading.aliases.length + 64) [] rest

/-- The commands that take values for names as their arguments. -/
def declaring : Dialect → List String
  | .bash => ["declare", "typeset", "local", "export", "readonly"]
  | .plain => ["export", "readonly", "local"]

/-- The characters of a word without quotes and expansions. -/
def literal? (word : Word) : Option (List Char) :=
  match word.parts with
  | [.plain octets] => some octets
  | _ => none

/-- Whether the words of a command so far, which are in reverse, are the name of a command
that takes values for names, after any words that only say how it is found. -/
def declares (dialect : Dialect) (arguments : List Argument) : Bool :=
  let names := arguments.reverse.map fun
    | .word word => (literal? word).map String.ofList
    | .assignment _ => none
  match names.dropWhile fun name => name = some "command" ∨ name = some "builtin" with
  | some name :: _ => (declaring dialect).contains name
  | _ => false

/-- Whether a list of commands ends before a text. -/
def endsList (rest : List Char) : Bool :=
  rest.isEmpty || rest.head? = some ')' || (";;".toList.isPrefixOf rest) ||
    (";&".toList.isPrefixOf rest) ||
    ["then", "elif", "else", "fi", "do", "done", "esac", "\x7d"].any fun word =>
      startsWith word rest

/-- The sign of a test between two words at the start of a text. -/
def testSign? (rest : List Char) : Option (String × List Char) :=
  let signs := ["==", "=~", "!=", "=", "-eq", "-ne", "-lt", "-le", "-gt", "-ge", "-nt", "-ot",
    "-ef"]
  match rest with
  | '<' :: rest => some ("<", rest)
  | '>' :: rest => some (">", rest)
  | _ => (signs.find? fun sign => startsWith sign rest).map fun sign =>
      (sign, rest.drop sign.length)

/-- Whether a word is the sign of a test of one word. -/
def isTestSign (word : Word) : Bool :=
  match literal? word with
  | some ['-', letter] => "abcdefghknoprstuvwxzGLNORS".toList.contains letter
  | _ => false

/-- How the body of a case ends, and what follows. -/
def ending? (rest : List Char) : Option (Ending × List Char) :=
  if ";;&".toList.isPrefixOf rest then some (.goOn, rest.drop 3)
  else if ";;".toList.isPrefixOf rest then some (.stop, rest.drop 2)
  else if ";&".toList.isPrefixOf rest then some (.fallThrough, rest.drop 2)
  else none

/-- The operators of redirections in the order in which they are looked for. -/
def operators (dialect : Dialect) : List (String × Nat × Direction) :=
  let extra := match dialect with
    | .bash => [("<<<", 0, .hereLine), ("&>>", 1, .outputsAppend), ("&>", 1, .outputs)]
    | .plain => []
  extra ++ [("<&", 0, .duplicate), ("<>", 0, .both), ("<", 0, .input), (">>", 1, .append),
    (">&", 1, .duplicate), (">|", 1, .overwrite), (">", 1, .output)]

/-- What stands before the operator of a redirection, and what follows it. -/
def redirectionPlace (dialect : Dialect) (rest : List Char) : Option Place × List Char :=
  let digits := rest.takeWhile Char.isDigit
  match toNat? digits with
  | some number => (some (.number number), rest.drop digits.length)
  | none =>
      match rest with
      | '\x7b' :: after =>
          let name := after.takeWhile Words.isName
          match after.drop name.length with
          | '\x7d' :: next :: after =>
              if dialect = .bash ∧ Words.isWholeName name ∧ (next = '<' ∨ next = '>') then
                (some (.named name), next :: after)
              else (none, rest)
          | _ => (none, rest)
      | _ => (none, rest)

mutual

/-- Reads parts, after those found, which are in reverse. -/
def parts (reading : Reading) :
    Nat → Words.Mode → List Part → List Char → Option (List Part × List Char)
  | 0, _, _, _ => none
  | fuel + 1, mode, found, rest =>
      let isProtected := Words.isProtected mode
      let nested := fun after : List Char =>
        match parts reading fuel .group [] after with
        | some (inner, after) =>
            parts reading fuel mode
              (Words.addPlain [')'] (inner.reverse ++ Words.addPlain ['('] found)) after
        | none => none
      match rest with
      | [] =>
          if Words.mayEnd mode then some (found.reverse, []) else none
      | '\\' :: rest =>
          match rest with
          | '\n' :: rest => parts reading fuel mode found rest
          | character :: rest =>
              let octets :=
                if Words.isEscapable mode character then [character] else ['\\', character]
              parts reading fuel mode (Words.addQuoted octets found) rest
          | [] => parts reading fuel mode (Words.addQuoted ['\\'] found) []
      | '$' :: rest =>
          if rest.head? = some '"' ∧ reading.dialect = .bash ∧ !isProtected then
            parts reading fuel mode found rest
          else
            match dollar reading fuel mode rest with
            | some (part, rest) => parts reading fuel mode (part :: found) rest
            | none => none
      | '\x60' :: rest =>
          match Words.inBackquotes (mode = .double ∨ mode = .doubleOperand) [] rest with
          | some (script, rest) =>
              parts reading fuel mode (.substitution script isProtected :: found) rest
          | none => none
      | character :: after =>
          if !Words.isActive mode character then
            let octets := rest.takeWhile fun character => !Words.isActive mode character
            let added :=
              if isProtected then Words.addQuoted octets found else Words.addPlain octets found
            parts reading fuel mode added (rest.drop octets.length)
          else if character = '"' then
            if mode = .double then some (found.reverse, after)
            else
              match parts reading fuel .double [] after with
              | some (inner, after) =>
                  parts reading fuel mode (inner.reverse ++ Words.addQuoted [] found) after
              | none => none
          else if character = '\'' then
            let octets := after.takeWhile (· != '\'')
            match after.drop octets.length with
            | [] => none
            | _ :: after => parts reading fuel mode (Words.addQuoted octets found) after
          else if character = '\x7d' then some (found.reverse, after)
          else if character = ')' ∧ mode = .group then some (found.reverse, after)
          else if character = '(' ∧ (mode = .group ∨ mode = .expression) then nested after
          else if character = '(' ∧ reading.extended ∧ Words.endsInSign found then nested after
          else if (character = '<' ∨ character = '>') ∧ after.head? = some '(' ∧
              mode = .word ∧ reading.dialect = .bash then
            match inScript reading fuel (after.drop 1) with
            | some (script, after) =>
                parts reading fuel mode (.process script (character = '>') :: found) after
            | none => none
          else some (found.reverse, rest)

/-- Reads the script of an expansion up to its closing parenthesis. -/
def inScript (reading : Reading) : Nat → List Char → Option (List Char × List Char)
  | 0, _ => none
  | fuel + 1, rest =>
      let ends := fun after : List Char =>
        match after with
        | ')' :: after => some (rest.take (rest.length - after.length - 1), after)
        | _ => none
      match skipLines fuel rest with
      | ')' :: after => ends (')' :: after)
      | _ => (list reading fuel [] rest).bind fun found => ends found.2

/-- Reads an expansion after its dollar sign. -/
def dollar (reading : Reading) : Nat → Words.Mode → List Char → Option (Part × List Char)
  | 0, _, _ => none
  | fuel + 1, mode, rest =>
      let whole := Words.isProtected mode
      let isBash := reading.dialect = .bash
      let literal : Part := if whole then .quoted ['$'] else .plain ['$']
      let evaluated := fun (inside after : List Char) =>
        let inside := if isBash then inside.filter (· != '"') else inside
        match parts reading fuel .text [] inside with
        | some (expression, _) => some (Part.arithmetic expression whole, after)
        | none => none
      let script := fun after : List Char =>
        (inScript reading fuel after).map fun found =>
          (Part.substitution found.1 whole, found.2)
      match rest with
      | '(' :: '(' :: after =>
          match Words.inExpression reading.dialect after with
          | some (inside, after) => evaluated inside after
          | none => if isBash then script ('(' :: after) else none
      | '(' :: after => script after
      | '[' :: after =>
          if isBash then (Words.inside ']' after).bind fun found => evaluated found.1 found.2
          else some (literal, rest)
      | '\x7b' :: after => braced reading fuel whole after
      | '\'' :: after =>
          if isBash ∧ !whole then
            (Words.inDollarQuotes fuel [] after).map fun found => (.quoted found.1, found.2)
          else some (literal, rest)
      | character :: after =>
          if Words.startsName character then
            some (.parameter ⟨rest.takeWhile Words.isName, none, false⟩ .value [] whole,
              rest.dropWhile Words.isName)
          else if Words.isSpecial character ∨ character.isDigit then
            some (.parameter ⟨[character], none, false⟩ .value [] whole, after)
          else some (literal, rest)
      | [] => some (literal, [])

/-- Reads a parameter in braces after the opening one. -/
def braced (reading : Reading) : Nat → Bool → List Char → Option (Part × List Char)
  | 0, _, _ => none
  | fuel + 1, whole, rest =>
      let dialect := reading.dialect
      let operated := fun (subject : Subject) (after : List Char) =>
        let (operation, after) := (Words.operation dialect after).getD (.invalid, after)
        let isRefused := subject.name.isEmpty || (subject.name == ['#'] && !subject.indirect &&
          Words.isUncountable dialect operation (after.head? = some '\x7d'))
        let operation := if isRefused then .invalid else operation
        let mode :=
          if whole ∧ !Words.isPattern operation then Words.Mode.doubleOperand else .operand
        (parts reading fuel mode [] after).map fun found =>
          (Part.parameter subject operation found.1 whole, found.2)
      let ordinary := fun rest : List Char =>
        let (subject, after) := (Words.bracedSubject dialect rest).getD (⟨[], none, false⟩, rest)
        operated subject after
      match rest with
      | '#' :: '\x7d' :: after => some (.parameter ⟨['#'], none, false⟩ .value [] whole, after)
      | '#' :: after =>
          match Words.bracedSubject dialect after with
          | some (subject, '\x7d' :: after) => some (.parameter subject .length [] whole, after)
          | _ => ordinary rest
      | '!' :: after =>
          match Words.bracedSubject dialect after with
          | some (subject, ending) =>
              if dialect = .plain ∨ !Words.mayBeIndirect subject.name then ordinary rest
              else
                match subject.subscript, ending with
                | none, '@' :: '\x7d' :: after =>
                    some (.parameter subject (.names false) [] whole, after)
                | none, '*' :: '\x7d' :: after =>
                    some (.parameter subject (.names true) [] whole, after)
                | some ['@'], '\x7d' :: after =>
                    some (.parameter subject (.keys false) [] whole, after)
                | some ['*'], '\x7d' :: after =>
                    some (.parameter subject (.keys true) [] whole, after)
                | _, ending => operated { subject with indirect := true } ending
          | none => ordinary rest
      | _ => ordinary rest

/-- Reads the word at the start of a text. -/
def wordIn (reading : Reading) : Nat → Words.Mode → List Char → Option (Word × List Char)
  | 0, _, _ => none
  | fuel + 1, mode, rest =>
      (parts reading fuel mode [] rest).map fun found =>
        (⟨found.1, rest.take (rest.length - found.2.length)⟩, found.2)

/-- Reads a text that starts on the next line and goes on up to a line that holds a
mark. -/
def hereText (reading : Reading) : Nat → Bool → List Char → Option (Word × List Char)
  | 0, _, _ => none
  | fuel + 1, noTabs, rest => do
      let (word, rest) ← wordIn reading fuel .word (skipSpaces rest)
      if word.text.isEmpty then none
      let (mark, quoted) := Words.unquote word.parts
      let line := rest.takeWhile (· != '\n')
      let below := (rest.drop line.length).drop 1
      let (text, after) := hereLines mark noTabs (below.length + 1) [] below
      let target ←
        if quoted then some [.quoted text]
        else (parts reading fuel .text [] text).map Prod.fst
      -- The mark and the lines stay together as the text of the word.
      return (⟨target, word.text ++ '\n' :: text⟩, line ++ '\n' :: after)

/-- Reads a redirection, if one is there. -/
def redirection? (reading : Reading) :
    Nat → List Char → Option (Option (Redirection × List Char))
  | 0, _ => none
  | fuel + 1, rest =>
      let dialect := reading.dialect
      let (place, after) := redirectionPlace dialect rest
      let at_ := fun default : Nat => place.getD (.number default)
      let isProcess := dialect = .bash ∧
        ("<(".toList.isPrefixOf after ∨ ">(".toList.isPrefixOf after)
      if "<<<".toList.isPrefixOf after ∧ dialect = .plain then some none
      else if "<<".toList.isPrefixOf after ∧ !"<<<".toList.isPrefixOf after then
        let after := after.drop 2
        let noTabs := after.head? = some '-'
        some ((hereText reading fuel noTabs (if noTabs then after.drop 1 else after)).map
          fun found => (⟨at_ 0, .here, found.1, place.isSome⟩, found.2))
      else if isProcess then none
      else
        match (operators dialect).find? fun entry => entry.1.toList.isPrefixOf after with
        | none => none
        | some (sign, default, direction) =>
            if place.isSome ∧ sign.toList.head? = some '&' then none
            else
              some ((wordIn reading fuel .word (skipSpaces (after.drop sign.length))).bind
                fun found =>
                  if found.1.text.isEmpty then none
                  else some (⟨at_ default, direction, found.1, place.isSome⟩, found.2))

/-- Reads all redirections that follow. -/
def redirections (reading : Reading) :
    Nat → List Redirection → List Char → Option (List Redirection × List Char)
  | 0, _, _ => none
  | fuel + 1, found, rest =>
      match redirection? reading fuel (skipBlank rest) with
      | none => some (found.reverse, rest)
      | some none => none
      | some (some (redirection, rest)) =>
          redirections reading fuel (redirection :: found) rest

/-- Reads what a name is given. -/
def given (reading : Reading) : Nat → List Char → Option (Given × List Char)
  | 0, _ => none
  | fuel + 1, rest =>
      if reading.dialect = .bash ∧ rest.head? = some '(' then
        (elements reading fuel [] (rest.drop 1)).map fun found => (.many found.1, found.2)
      else (wordIn reading fuel .word rest).map fun found => (.one found.1, found.2)

/-- Reads the elements of a list of values, after those found, which are in reverse. -/
def elements (reading : Reading) :
    Nat → List Element → List Char → Option (List Element × List Char)
  | 0, _, _ => none
  | fuel + 1, found, rest =>
      let plain := fun rest : List Char =>
        match wordIn reading fuel .word rest with
        | some (word, after) =>
            if word.text.isEmpty then none
            else elements reading fuel (⟨none, false, word⟩ :: found) after
        | none => none
      let keyed := fun (key : List Char) (append : Bool) (rest : List Char) =>
        match wordIn reading fuel .word rest with
        | some (word, after) => elements reading fuel (⟨some key, append, word⟩ :: found) after
        | none => none
      match skipLines fuel rest with
      | [] => none
      | ')' :: after => some (found.reverse, after)
      | '[' :: after =>
          match Words.inside ']' after with
          | some (key, '=' :: after) => keyed key false after
          | some (key, '+' :: '=' :: after) => keyed key true after
          | _ => plain ('[' :: after)
      | rest => plain rest

/-- Reads the rest of a simple command, after what has been found, each in reverse. -/
def simple (reading : Reading) :
    Nat → Nat → List Assignment → List Argument → List Redirection → List Char →
      Option (Command × List Char)
  | 0, _, _, _, _, _ => none
  | fuel + 1, line, assignments, arguments, found, rest =>
      let done := fun rest : List Char =>
        if assignments.isEmpty && arguments.isEmpty && found.isEmpty then none
        else some (Command.simple line assignments.reverse arguments.reverse found.reverse, rest)
      let rest := skipBlank rest
      let rest :=
        if arguments.isEmpty ∧ !(assignments.isEmpty ∧ found.isEmpty) then atCommand reading rest
        else rest
      match redirection? reading fuel rest with
      | some none => none
      | some (some (redirection, rest)) =>
          simple reading fuel line assignments arguments (redirection :: found) rest
      | none =>
          let isDeclaring := declares reading.dialect arguments
          let start? :=
            if arguments.isEmpty ∨ isDeclaring then
              Words.assignmentStart? reading.dialect rest
            else none
          match start? with
          | some (name, subscript, append, rest) =>
              match given reading fuel rest with
              | none => none
              | some (value, rest) =>
                  let assignment : Assignment := ⟨name, subscript, append, value⟩
                  if isDeclaring then
                    simple reading fuel line assignments (.assignment assignment :: arguments)
                      found rest
                  else
                    simple reading fuel line (assignment :: assignments) arguments found rest
          | none =>
              match rest with
              | [] => done rest
              | next :: after =>
                  let isProcess := reading.dialect = .bash ∧ (next = '<' ∨ next = '>') ∧
                    after.head? = some '('
                  if Words.isMeta next ∧ !isProcess then
                    (if next = '(' then none else done rest)
                  else
                    match wordIn reading fuel .word rest with
                    | none => none
                    | some (word, rest) =>
                        -- A line break after a backslash may leave no word at all.
                        let arguments :=
                          if word.parts.isEmpty then arguments else .word word :: arguments
                        simple reading fuel line assignments arguments found rest

/-- Reads words up to the end of a line or a semicolon. -/
def wordList (reading : Reading) : Nat → List Word → List Char → Option (List Word × List Char)
  | 0, _, _ => none
  | fuel + 1, found, rest =>
      match skipBlank rest with
      | [] => some (found.reverse, [])
      | '\n' :: rest => some (found.reverse, '\n' :: rest)
      | ';' :: rest => some (found.reverse, ';' :: rest)
      | rest =>
          match wordIn reading fuel .word rest with
          | some (word, after) =>
              if word.text.isEmpty then none else wordList reading fuel (word :: found) after
          | none => none

/-- Reads the patterns of a case. -/
def patterns (reading : Reading) : Nat → List Word → List Char → Option (List Word × List Char)
  | 0, _, _ => none
  | fuel + 1, found, rest =>
      match wordIn reading fuel .word (skipSpaces rest) with
      | none => none
      | some (word, rest) =>
          if word.text.isEmpty then none
          else
            match skipSpaces rest with
            | '|' :: rest => patterns reading fuel (word :: found) rest
            | ')' :: rest => some ((word :: found).reverse, rest)
            | _ => none

/-- Reads conditions of which one has to hold. -/
def testEither (reading : Reading) : Nat → List Char → Option (Test × List Char)
  | 0, _ => none
  | fuel + 1, rest => do
      let (first, rest) ← testBoth reading fuel rest
      match skipLines fuel rest with
      | '|' :: '|' :: rest =>
          let (second, rest) ← testEither reading fuel rest
          return (.either first second, rest)
      | rest => return (first, rest)

/-- Reads conditions all of which have to hold. -/
def testBoth (reading : Reading) : Nat → List Char → Option (Test × List Char)
  | 0, _ => none
  | fuel + 1, rest => do
      let (first, rest) ← testOne reading fuel rest
      match skipLines fuel rest with
      | '&' :: '&' :: rest =>
          let (second, rest) ← testBoth reading fuel rest
          return (.both first second, rest)
      | rest => return (first, rest)

/-- Reads one condition. -/
def testOne (reading : Reading) : Nat → List Char → Option (Test × List Char)
  | 0, _ => none
  | fuel + 1, rest => do
      let rest := skipLines fuel rest
      if startsWith "!" rest then
        let (test, rest) ← testOne reading fuel (rest.drop 1)
        return (.opposite test, rest)
      if rest.head? = some '(' then
        let (test, rest) ← testEither reading fuel (rest.drop 1)
        match skipLines fuel rest with
        | ')' :: rest => return (.group test, rest)
        | _ => none
      if startsWith "]]" rest then none
      let patterned := { reading with extended := true }
      let (first, rest) ← wordIn reading fuel .word rest
      if first.text.isEmpty then none
      let rest := skipBlank rest
      let isEnd := startsWith "]]" rest ∨ "&&".toList.isPrefixOf rest ∨
        "||".toList.isPrefixOf rest ∨ rest.head? = some ')' ∨ rest.head? = some '\n'
      if isTestSign first ∧ !isEnd then
        let (word, rest) ← wordIn reading fuel .word rest
        if word.text.isEmpty then none
        return (.unary (String.ofList first.text) word, rest)
      match testSign? rest with
      | some (sign, rest) =>
          let mode := if sign = "=~" then Words.Mode.expression else .word
          let (second, rest) ← wordIn patterned fuel mode (skipSpaces rest)
          if second.text.isEmpty then none
          return (.binary first sign second, rest)
      | none => if isTestSign first ∨ !isEnd then none else return (.word first, rest)

/-- Reads a list of commands, of which there is at least one. -/
def list (reading : Reading) : Nat → List Command → List Char → Option (Command × List Char)
  | 0, _, _ => none
  | fuel + 1, found, rest =>
      let rest := skipLines fuel rest
      if endsList rest then
        if found.isEmpty then none else some (.sequence found.reverse, rest)
      else
        match andOr reading fuel rest with
        | none => none
        | some (command, rest) =>
            let rest := skipBlank rest
            if endsList rest then some (.sequence (command :: found).reverse, rest)
            else
              match rest with
              | ';' :: rest => list reading fuel (command :: found) rest
              | '&' :: rest => list reading fuel (.background command :: found) rest
              | '\n' :: rest => list reading fuel (command :: found) rest
              | _ => none

/-- Reads commands that depend on each other's success. -/
def andOr (reading : Reading) : Nat → List Char → Option (Command × List Char)
  | 0, _ => none
  | fuel + 1, rest =>
      match pipeline reading fuel rest with
      | none => none
      | some (first, rest) => andOrFrom reading fuel first rest

/-- Reads what follows a command that the next one depends on. -/
def andOrFrom (reading : Reading) : Nat → Command → List Char → Option (Command × List Char)
  | 0, _, _ => none
  | fuel + 1, first, rest =>
      match skipBlank rest with
      | '&' :: '&' :: after =>
          match pipeline reading fuel (skipLines fuel after) with
          | some (second, rest) => andOrFrom reading fuel (.both first second) rest
          | none => none
      | '|' :: '|' :: after =>
          match pipeline reading fuel (skipLines fuel after) with
          | some (second, rest) => andOrFrom reading fuel (.either first second) rest
          | none => none
      | rest => some (first, rest)

/-- Reads commands that pass their output on. -/
def pipeline (reading : Reading) : Nat → List Char → Option (Command × List Char)
  | 0, _ => none
  | fuel + 1, rest =>
      let rest := skipBlank rest
      let isBash := reading.dialect = .bash
      let nothing : Command := .simple (lineOf reading rest) [] [] []
      let isAlone := fun after : List Char =>
        after.head?.all fun character => character = '\n' || character = ';'
      if startsWith "!" rest then
        let after := skipBlank (rest.drop 1)
        if isBash ∧ isAlone after then some (.pipeline true [nothing], after)
        else if isBash ∧ (startsWith "!" after ∨ startsWith "time" after) then
          match pipeline reading fuel after with
          | some (command, rest) => some (.pipeline true [command], rest)
          | none => none
        else
          match pipelineFrom reading fuel [] after with
          | some (commands, rest) => some (.pipeline true commands, rest)
          | none => none
      else if isBash ∧ startsWith "time" rest then
        let after := skipBlank (rest.drop 4)
        let isPortable := startsWith "-p" after
        let after := if isPortable then skipBlank (after.drop 2) else after
        let after := if startsWith "--" after then skipBlank (after.drop 2) else after
        if isAlone after then some (.timed isPortable nothing, after)
        else
          match pipeline reading fuel after with
          | some (command, rest) => some (.timed isPortable command, rest)
          | none => none
      else
        match pipelineFrom reading fuel [] rest with
        | some ([command], rest) => some (command, rest)
        | some (commands, rest) => some (.pipeline false commands, rest)
        | none => none

/-- Reads the commands of a pipeline after those found, which are in reverse. -/
def pipelineFrom (reading : Reading) :
    Nat → List Command → List Char → Option (List Command × List Char)
  | 0, _, _ => none
  | fuel + 1, found, rest =>
      match command reading fuel (atCommand reading (skipBlank rest)) with
      | none => none
      | some (command, rest) =>
          match skipBlank rest with
          | '|' :: '|' :: after => some ((command :: found).reverse, '|' :: '|' :: after)
          | '|' :: '&' :: after =>
              if reading.dialect = .plain then none
              else
                let both : Redirection :=
                  ⟨.number 2, .duplicate, ⟨[.plain ['1']], ['1']⟩, true⟩
                pipelineFrom reading fuel (.redirected command [both] :: found)
                  (skipLines fuel after)
          | '|' :: after => pipelineFrom reading fuel (command :: found) (skipLines fuel after)
          | rest => some ((command :: found).reverse, rest)

/-- Reads a command. -/
def command (reading : Reading) : Nat → List Char → Option (Command × List Char)
  | 0, _ => none
  | fuel + 1, rest =>
      let word := String.ofList (bareWord rest)
      let after := rest.drop word.length
      let line := lineOf reading rest
      let isBash := reading.dialect = .bash
      let compound : Option (Option (Command × List Char)) :=
        if isReserved reading.dialect word.toList ∧ startsWith word rest then
          match word with
          | "\x7b" => some (do
              let (body, rest) ← list reading fuel [] after
              return (.group body, ← expect "\x7d" rest))
          | "if" => some (branch reading fuel after)
          | "while" => some (loop reading fuel false after)
          | "until" => some (loop reading fuel true after)
          | "for" => some (each reading fuel line after)
          | "select" => some (select reading fuel line after)
          | "case" => some (choice reading fuel line after)
          | "function" => some (function reading fuel after)
          | "[[" => some (do
              let (test, rest) ← testEither reading fuel after
              return (.condition line test, ← expect "]]" rest))
          | _ => some none
        else
          match rest with
          | '(' :: '(' :: inside =>
              match if isBash then Words.inDoubleParen inside else none with
              | some (expression, rest) =>
                  some ((parts reading fuel .text [] (expression.filter (· != '"'))).map
                    fun found => (.arithmetic line ⟨found.1, expression⟩, rest))
              | none => some (subshell reading fuel ('(' :: inside))
          | '(' :: inside => some (subshell reading fuel inside)
          | _ => none
      match compound with
      | some none => none
      | some (some (command, rest)) =>
          match redirections reading fuel [] rest with
          | some ([], rest) => some (command, rest)
          | some (found, rest) => some (.redirected command found, rest)
          | none => none
      | none =>
          let isAssigned := isBash && (Words.assignmentStart? .bash rest).isSome
          let isPattern := reading.extended && after.head? = some '(' &&
            word.toList.getLast?.any fun octet => "?*+@!".toList.contains octet
          match skipSpaces after with
          | '(' :: inside =>
              if isAssigned ∨ isPattern then simple reading fuel line [] [] [] rest
              else
                match skipSpaces inside with
                | ')' :: rest =>
                    if word.isEmpty ∨ (!isBash ∧ !Words.isWholeName word.toList) then none
                    else
                      (command reading fuel (skipLines fuel rest)).bind fun found =>
                        if isBash ∧ found.1.isSimple then none
                        else some (.define word.toList found.1, found.2)
                | _ => none
          | _ => simple reading fuel line [] [] [] rest

/-- Reads a subshell after its parenthesis. -/
def subshell (reading : Reading) : Nat → List Char → Option (Command × List Char)
  | 0, _ => none
  | fuel + 1, rest =>
      match list reading fuel [] rest with
      | some (body, ')' :: rest) => some (.subshell body, rest)
      | _ => none

/-- Reads what follows the word for a condition. -/
def branch (reading : Reading) : Nat → List Char → Option (Command × List Char)
  | 0, _ => none
  | fuel + 1, rest => do
      let (condition, rest) ← list reading fuel [] rest
      let (first, rest) ← list reading fuel [] (← expect "then" rest)
      match expect "elif" rest with
      | some rest =>
          let (second, rest) ← branch reading fuel rest
          return (.branch condition first (some second), rest)
      | none =>
          match expect "else" rest with
          | some rest =>
              let (second, rest) ← list reading fuel [] rest
              return (.branch condition first (some second), ← expect "fi" rest)
          | none => return (.branch condition first none, ← expect "fi" rest)

/-- Reads a body between the words for its start and its end. -/
def body (reading : Reading) : Nat → List Char → Option (Command × List Char)
  | 0, _ => none
  | fuel + 1, rest => do
      let (body, rest) ← list reading fuel [] (← expect "do" rest)
      return (body, ← expect "done" rest)

/-- Reads what follows the word for a loop. -/
def loop (reading : Reading) : Nat → Bool → List Char → Option (Command × List Char)
  | 0, _, _ => none
  | fuel + 1, opposite, rest => do
      let (condition, rest) ← list reading fuel [] rest
      let (body, rest) ← body reading fuel rest
      return (.loop opposite condition body, rest)

/-- Reads a body between words or braces, after a semicolon if there is one. -/
def repeated (reading : Reading) : Nat → List Char → Option (Command × List Char)
  | 0, _ => none
  | fuel + 1, rest => do
      let rest := match skipBlank rest with
        | ';' :: rest => rest
        | rest => rest
      match reading.dialect, expect "\x7b" rest with
      | .bash, some rest =>
          let (body, rest) ← list reading fuel [] rest
          return (body, ← expect "\x7d" rest)
      | _, _ => body reading fuel rest

/-- Reads three expressions and a body, after two parentheses. -/
def counted (reading : Reading) : Nat → Nat → List Char → Option (Command × List Char)
  | 0, _, _ => none
  | fuel + 1, line, rest => do
      let (inside, rest) ← Words.inDoubleParen rest
      match splitAt ';' (inside.filter (· != '"')) with
      | [start, condition, step] =>
          let expression := fun text : List Char =>
            (parts reading fuel .text [] text).map fun found => (⟨found.1, text⟩ : Word)
          let start ← expression start
          let condition ← expression condition
          let step ← expression step
          let (body, rest) ← repeated reading fuel rest
          return (.counted line start condition step body, rest)
      | _ => none

/-- Reads a name, the words after it if there are any, and a body. -/
def overWords (reading : Reading) :
    Nat → List Char → Option (List Char × Option (List Word) × Command × List Char)
  | 0, _ => none
  | fuel + 1, rest => do
      let rest := skipSpaces rest
      let name := bareWord rest
      if !Words.isWholeName name then none
      let rest := skipLines fuel (rest.drop name.length)
      let (words, rest) ←
        if startsWith "in" rest then
          (wordList reading fuel [] (rest.drop 2)).map fun found => (some found.1, found.2)
        else some (none, rest)
      let (body, rest) ← repeated reading fuel rest
      return (name, words, body, rest)

/-- Reads what follows the word for a loop over words. -/
def each (reading : Reading) : Nat → Nat → List Char → Option (Command × List Char)
  | 0, _, _ => none
  | fuel + 1, line, rest =>
      if reading.dialect = .bash ∧ "((".toList.isPrefixOf (skipSpaces rest) then
        counted reading fuel line ((skipSpaces rest).drop 2)
      else
        (overWords reading fuel rest).map fun found =>
          (.each line found.1 found.2.1 found.2.2.1, found.2.2.2)

/-- Reads what follows the word for a choice by the one who runs the script. -/
def select (reading : Reading) : Nat → Nat → List Char → Option (Command × List Char)
  | 0, _, _ => none
  | fuel + 1, line, rest =>
      (overWords reading fuel rest).map fun found =>
        (.select line found.1 found.2.1 found.2.2.1, found.2.2.2)

/-- Reads what follows the word for a choice. -/
def choice (reading : Reading) : Nat → Nat → List Char → Option (Command × List Char)
  | 0, _, _ => none
  | fuel + 1, line, rest => do
      let (word, rest) ← wordIn reading fuel .word (skipSpaces rest)
      if word.text.isEmpty then none
      let (cases, rest) ← cases reading fuel [] (← expect "in" rest)
      return (.choice line word cases, rest)

/-- Reads the cases of a choice after those found, which are in reverse. -/
def cases (reading : Reading) :
    Nat → List (List Word × Command × Ending) → List Char →
      Option (List (List Word × Command × Ending) × List Char)
  | 0, _, _ => none
  | fuel + 1, found, rest => do
      let rest := skipLines fuel rest
      if startsWith "esac" rest then return (found.reverse, rest.drop 4)
      let rest := if rest.head? = some '(' then rest.drop 1 else rest
      let (patterns, rest) ← patterns reading fuel [] rest
      let rest := skipLines fuel rest
      let (body, rest) ←
        if (ending? rest).isSome ∨ startsWith "esac" rest then some (.sequence [], rest)
        else list reading fuel [] rest
      let rest := skipLines fuel rest
      match ending? rest with
      | some (ending, after) =>
          if reading.dialect = .plain ∧ ending ≠ .stop then none
          else cases reading fuel ((patterns, body, ending) :: found) after
      | none => return (((patterns, body, .stop) :: found).reverse, ← expect "esac" rest)

/-- Reads what follows the word for a function. -/
def function (reading : Reading) : Nat → List Char → Option (Command × List Char)
  | 0, _ => none
  | fuel + 1, rest => do
      let rest := skipSpaces rest
      let name := bareWord rest
      if name.isEmpty then none
      let rest := skipSpaces (rest.drop name.length)
      let rest := match rest with
        | '(' :: inside =>
            match skipSpaces inside with
            | ')' :: rest => rest
            | _ => rest
        | _ => rest
      let (body, rest) ← command reading fuel (skipLines fuel rest)
      if body.isSimple then none
      return (.define name body, rest)

end

/-- What is found at the start of a script. -/
inductive Next where
  /-- Nothing more. -/
  | finished
  /-- Something wrong. -/
  | wrong
  /-- A command and what follows its line. -/
  | command (command : Command) (rest : List Char)

/-- Reads the commands of a line after those found, which are in reverse. -/
def line (reading : Reading) : Nat → Nat → List Command → List Char → Option (Command × List Char)
  | _, 0, _, _ => none
  | fuel, count + 1, found, rest =>
      let finish := fun (commands : List Command) (rest : List Char) =>
        some (Command.sequence commands.reverse, rest)
      match skipBlank rest with
      | [] => finish found []
      | '\n' :: rest => finish found rest
      | rest =>
          match andOr reading fuel rest with
          | none => none
          | some (command, rest) =>
              match skipBlank rest with
              | [] => finish (command :: found) []
              | '\n' :: rest => finish (command :: found) rest
              | ';' :: ';' :: _ => none
              | ';' :: '&' :: _ => none
              | ';' :: rest => line reading fuel count (command :: found) rest
              | '&' :: rest => line reading fuel count (.background command :: found) rest
              | _ => none

/-- The fuel for a text. -/
def fuelFor (reading : Reading) (text : List Char) : Nat :=
  8 * text.length + 64 +
    (reading.aliases.map fun entry => 64 * (entry.2.length + 8)).foldl (· + ·) 0

/-- Reads the commands of the next line that has any. -/
def next (reading : Reading) (script : List Char) : Next :=
  let fuel := fuelFor reading script
  match skipLines fuel script with
  | [] => .finished
  | rest =>
      match line reading fuel fuel [] rest with
      | some (command, rest) => .command command rest
      | none => .wrong

/-- The parts of a text in which only expansions have a meaning. -/
def textParts? (reading : Reading) (text : List Char) : Option (List Part) :=
  (parts reading (fuelFor reading text) .text [] text).map Prod.fst

/-- The parts of a text as a word, in which spaces stand for themselves. -/
def wordParts? (reading : Reading) (text : List Char) : Option (List Part) :=
  (parts reading (fuelFor reading text) .loose [] text).map Prod.fst

end Script
end Shell
end Snippets
