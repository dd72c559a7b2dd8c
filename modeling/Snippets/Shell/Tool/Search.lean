import Snippets.Shell.Pattern
import Snippets.Shell.Regex
import Snippets.Shell.Tool.Backtracking
import Snippets.Shell.Tool.Display

/-!
# Choosing lines by expressions

The lines of files that match an expression, or the parts of them that do.
-/

namespace Snippets
namespace Shell
namespace Search

/-- What lines are looked for. -/
structure Query where
  /-- The expressions, of which one has to match. -/
  expressions : List Expression
  /-- Whether a match has to be a line as a whole. -/
  isWhole : Bool
  /-- Whether a match may not be part of a longer word. -/
  isWord : Bool
  /-- Whether lines without a match are wanted. -/
  opposite : Bool

/-- Whether a match satisfies a query. -/
def Query.accepts (query : Query) (before after : Option Char) : Bool :=
  (!query.isWhole || (before.isNone && after.isNone)) &&
    (!query.isWord ||
      (!before.any Regex.isWordCharacter && !after.any Regex.isWordCharacter))

/-- The first match of an expression in a line that satisfies a query, after the characters
passed over, which are in reverse. -/
def Query.findOne (query : Query) (expression : Expression) :
    Nat → List Char → List Char → Option Expression.Found
  | 0, _, _ => none
  | fuel + 1, passed, line =>
      match expression.findFrom passed passed line with
      | none => none
      | some found =>
          if query.accepts found.before.getLast? found.after.head? then some found
          else
            match (found.text ++ found.after) with
            | [] => none
            | next :: rest =>
                if query.isWhole then none
                else query.findOne expression fuel (next :: found.before.reverse) rest

/-- The first match of a query in a line, and the longest one of those that start there. -/
def Query.find (query : Query) (passed line : List Char) : Option Expression.Found :=
  (query.expressions.filterMap fun expression =>
    query.findOne expression (line.length + 2) passed line).foldl
      (fun best found =>
        match best with
        | none => some found
        | some other =>
            if found.before.length < other.before.length ∨
                (found.before.length = other.before.length ∧
                  other.text.length < found.text.length) then some found
            else some other)
      none

/-- Whether a line is wanted. -/
def Query.wants (query : Query) (line : List Char) : Bool :=
  (query.expressions.any fun expression =>
    (query.findOne expression (line.length + 2) [] line).isSome) != query.opposite

/-- All matches in a line that are not empty, with the number of octets before each. -/
def Query.findAll (query : Query) : Nat → List Char → List Char → List (Nat × List Char)
  | 0, _, _ => []
  | fuel + 1, passed, line =>
      match query.find passed line with
      | none => []
      | some found =>
          if found.text.isEmpty then
            match found.after with
            | [] => []
            | next :: rest => query.findAll fuel (next :: found.before.reverse) rest
          else
            ((ofCharacters found.before).length, found.text) ::
              query.findAll fuel (found.text.reverse ++ found.before.reverse) found.after

/-- Which kind of expressions is looked for. -/
def kindOf (invocation : Invocation) (options : Options) : Char :=
  (options.last? "EFGP").getD
    (if invocation.name = "egrep".toList then 'E'
    else if invocation.name = "fgrep".toList then 'F' else 'G')

/-- The expression of a kind for a text, or the words for what is wrong with it. -/
def expressionOf (kind : Char) (ignoresCase : Bool) (text : List Char) :
    Except String Expression :=
  let text := characters text
  let found : Except String Expression := match kind with
    | 'F' => .ok (.literal text)
    | 'P' =>
        match Backtracking.expression? text with
        | some expression => .ok expression
        | none => .error "syntax error in the pattern"
    | kind =>
        let grammar := (Grammar.lenient (kind = 'E')).withoutBareNames
        (Expression.ofText grammar text).mapError Fault.words
  if ignoresCase then found.map Expression.foldCase else found

/-- A line of a file: its text, its number and the number of octets before it. -/
structure Line where
  /-- The text. -/
  text : List Char
  /-- The number. -/
  number : Nat
  /-- The number of octets before it. -/
  offset : Nat

/-- The lines of octets. -/
def linesOf (mark : Char) (octets : List Char) : List Line :=
  ((bareRecords mark octets).foldl
    (fun (state : List Line × Nat × Nat) text =>
      let (found, number, offset) := state
      (⟨text, number, offset⟩ :: found, number + 1, offset + text.length + 1))
    ([], 1, 0)).1.reverse

/-- How lines are shown. -/
structure Display where
  /-- Whether the name of the file comes first. -/
  names : Bool
  /-- Whether the number comes before a line. -/
  numbers : Bool
  /-- Whether the number of octets before it comes before a line. -/
  offsets : Bool
  /-- Whether only matches are shown. -/
  onlyMatches : Bool
  /-- The number of lines that are shown before a line that is wanted, and after it. -/
  context : Nat × Nat
  /-- Whether lines around others are asked for. -/
  hasContext : Bool
  /-- What ends a name. -/
  nameMark : Option Char
  /-- What ends a line. -/
  mark : Char

/-- A line as it is shown. -/
def Display.line (display : Display) (query : Query) (name : List Char) (isWanted : Bool)
    (line : Line) : List Char :=
  let sign := if isWanted then ':' else '-'
  let start := fun offset : Nat =>
    (if display.names then name ++ [display.nameMark.getD sign] else []) ++
      (if display.numbers then ofNat line.number ++ [sign] else []) ++
      (if display.offsets then ofNat offset ++ [sign] else [])
  if display.onlyMatches then
    if isWanted != query.opposite then
      let text := characters line.text
      (query.findAll (text.length + 2) [] text).flatMap fun (place, text) =>
        start (line.offset + place) ++ ofCharacters text ++ [display.mark]
    else []
  else start line.offset ++ line.text ++ [display.mark]

/-- What has been shown of a file: the lines in reverse, the number of the last line that was
shown, the lines before the next one, how many lines are still to be shown, and how many lines
have been wanted. -/
structure Progress where
  /-- What has been shown, in reverse. -/
  shown : List (List Char)
  /-- The number of the last line that was shown. -/
  last : Nat
  /-- The lines that may be shown before the next one, the latest first. -/
  pending : List Line
  /-- How many lines are shown after the last one that was wanted. -/
  following : Nat
  /-- How many lines have been wanted. -/
  count : Nat
  /-- The octets of the lines that have been looked at. -/
  read : Nat

/-- Handles a line. -/
def Display.step (display : Display) (query : Query) (name : List Char) (most : Option Nat)
    (progress : Progress) (line : Line) : Progress :=
  let isOver := most.any (· ≤ progress.count)
  let read := if isOver then progress.read else line.offset + line.text.length + 1
  if !isOver && query.wants (characters line.text) then
    let before := (progress.pending.take display.context.1).reverse
    let first := (before.head?.getD line).number
    let isApart := display.hasContext && progress.last ≠ 0 && progress.last + 1 < first
    let separator := if isApart then [['-', '-', '\n']] else []
    let shown := before.map (display.line query name false) ++ [display.line query name true line]
    ⟨shown.reverse ++ separator ++ progress.shown, line.number, [], display.context.2,
      progress.count + 1, read⟩
  else if 0 < progress.following then
    ⟨display.line query name false line :: progress.shown, line.number, [],
      progress.following - 1, progress.count, read⟩
  else
    { progress with
      pending := (line :: progress.pending).take display.context.1, read := read }

/-- The number of octets that are read at once from a file. -/
def fileBlock : Nat := 98304

/-- The number of octets that are read at once from a pipe. -/
def pipeBlock : Nat := 65536

/-- What is left on standard input after some lines have been looked at, unless that were all.
Where the number of lines that are wanted ends the search, a file is left right behind them. -/
def Progress.rest (progress : Progress) (most : Option Nat) (isExact : Bool)
    (invocation : Invocation) : List Char :=
  if most.any (· ≤ progress.count) then
    if isExact ∧ invocation.isFile then invocation.input.drop progress.read
    else
      let block := if invocation.isFile then fileBlock else pipeBlock
      invocation.input.drop ((progress.read + block - 1) / block * block)
  else []

/-- Whether octets are no text: they hold a zero, or encode no characters. -/
def isBinary (octets : List Char) : Bool :=
  octets.contains '\x00' || (characters octets).any fun character =>
    strayCode ≤ character.toNat

/-- The files below a path, with the paths that lead to them. -/
def filesBelow (tree : FileTree) : Nat → List Char → List String → List (List Char)
  | 0, _, _ => []
  | fuel + 1, path, names =>
      (tree.children names).flatMap fun name =>
        let inner := if path.isEmpty then ofText name
          else if path.getLast? = some '/' then path ++ ofText name
          else path ++ '/' :: ofText name
        match tree.node? (names ++ [name]) with
        | some (.directory _) => filesBelow tree fuel inner (names ++ [name])
        | some (.file _ _) | some (.unreadable _ _) => [inner]
        | _ => []

/-- The files that operands name. -/
def targets (invocation : Invocation) (options : Options) (operands : List (List Char)) :
    List (List Char) :=
  if options.has 'r' ∨ options.has 'R' then
    let tree := invocation.tree
    let fuel := tree.nodes.length + 1
    let nameOf := fun path : List Char => (path.reverse.takeWhile (· != '/')).reverse
    let matchesAny := fun (letter : Char) (text : List Char) =>
      (options.valuesOf letter).any fun pattern =>
        Pattern.isMatch ⟨false, false, .pattern⟩ (Pattern.ofText (characters pattern))
          (characters text)
    let isWanted := fun path : List Char =>
      ((options.valuesOf 'λ').isEmpty || matchesAny 'λ' (nameOf path)) &&
        !matchesAny 'ξ' (nameOf path) &&
        !((splitAt '/' path).dropLast.any (matchesAny 'δ'))
    let operands := if operands.isEmpty then [[]] else operands
    operands.flatMap fun operand =>
      match invocation.find tree (if operand.isEmpty then ['.'] else operand) true with
      | .ok (names, .directory _) => (filesBelow tree fuel operand names).filter isWanted
      | _ => [operand]
  else if operands.isEmpty then [['-']]
  else operands

/-- The options for choosing lines. -/
def forms : List String :=
  ["E extended-regexp", "F fixed-strings", "G basic-regexp", "P perl-regexp", "e=regexp", "f=file",
   "i ignore-case", "y", "Y-no-ignore-case", "v invert-match", "w word-regexp", "x line-regexp",
   "c count", "l files-with-matches", "L files-without-match", "m=max-count", "o only-matching",
   "q quiet", "q silent", "s no-messages", "b byte-offset", "H with-filename", "h no-filename",
   "n line-number", "T initial-tab", "u", "U binary", "Z null", "z null-data",
   "A=after-context", "B=before-context", "C=context", "a text", "r recursive",
   "R dereference-recursive", "I", "λ:include", "ξ:exclude", "δ:exclude-dir", "κ!color", "κ!colour",
   "ν:label", "β-line-buffered", "d=directories", "γ:binary-files"]

/-- The arguments with a count after a dash turned into an option. -/
def modernise (arguments : List (List Char)) : List (List Char) :=
  arguments.map fun argument =>
    match argument with
    | '-' :: digit :: rest =>
        if digit.isDigit ∧ rest.all Char.isDigit then '-' :: 'C' :: digit :: rest else argument
    | _ => argument

/-- Chooses lines by expressions. -/
def grep : Tool := fun invocation =>
  invocation.withOptions forms true 2 (modernise invocation.arguments) fun options =>
    let fromFiles := (options.valuesOf 'f').map fun path => (path, invocation.read path)
    let unread := fromFiles.findSome? fun entry =>
      match entry.2 with
      | .error message => some (titled entry.1 ++ ": " ++ message)
      | .ok _ => none
    let given := options.valuesOf 'e' ++ fromFiles.flatMap fun entry =>
      match entry.2 with
      | .ok text => if text.isEmpty then [] else [bare '\n' text]
      | .error _ => []
    let isGiven := options.has 'e' || options.has 'f'
    let number := fun letter : Char => (options.value? letter).map toNat?
    let badCount := ['A', 'B', 'C'].find? fun letter => number letter = some none
    match unread, badCount, isGiven, options.operands with
    | some message, _, _, _ => invocation.fail message 2
    | none, some letter, _, _ =>
        invocation.fail (toText ((options.value? letter).getD []) ++
          ": invalid context length argument") 2
    | none, none, false, [] =>
        invocation.outcome.complain ("Usage: ".toList ++ invocation.name ++
          " [OPTION]... PATTERNS [FILE]...\n".toList ++ invocation.hint) 2
    | none, none, isGiven, operands =>
        let (patterns, operands) :=
          if isGiven then (given, operands) else (operands.take 1, operands.drop 1)
        let kind := kindOf invocation options
        let ignoresCase := options.last? "iyY" = some 'i' || options.last? "iyY" = some 'y'
        let texts := patterns.flatMap (splitAt '\n')
        match texts.mapM (expressionOf kind ignoresCase) with
        | .error message => invocation.fail message 2
        | .ok expressions =>
            let query : Query := ⟨expressions, options.has 'x', options.has 'w', options.has 'v'⟩
            let files := targets invocation options operands
            let isRecursive := options.has 'r' || options.has 'R'
            let hasDirectory := isRecursive && (operands.isEmpty || operands.any fun operand =>
              match invocation.find invocation.tree operand true with
              | .ok (_, node) => node.isDirectory
              | .error _ => false)
            let names := match options.last? "hH" with
              | some 'H' => true
              | some _ => false
              | none => decide (1 < operands.length) || hasDirectory
            let context := ((number 'C').bind id).getD 0
            let display : Display :=
              { names := names
                numbers := options.has 'n'
                offsets := options.has 'b'
                onlyMatches := options.has 'o'
                context :=
                  (((number 'B').bind id).getD context, ((number 'A').bind id).getD context)
                hasContext := options.has 'A' || options.has 'B' || options.has 'C'
                nameMark := if options.has 'Z' then some '\x00' else none
                mark := markOf options }
            let most := (options.value? 'm').bind toNat?
            let isListing := options.has 'l' || options.has 'L' || options.has 'c' ||
              options.has 'q'
            let listed := options.last? "lL"
            let (outcome, isFound, isWrong, _) := files.foldl
              (fun (state : Outcome × Bool × Bool × Bool) path =>
                let (outcome, isFound, isWrong, hasShown) := state
                match invocation.read path with
                | .error message =>
                    if isRecursive ∧ message = "Is a directory" then state
                    else
                      let outcome := if options.has 's' then outcome
                        else outcome.write 2 (invocation.complaint (ofText
                          (titled path ++ ": " ++ message)))
                      (outcome, isFound, true, hasShown)
                | .ok text =>
                    let name := if path = ['-'] then
                        ((options.value? 'ν').getD "(standard input)".toList)
                      else path
                    let all := linesOf display.mark text
                    let isQuiet := options.has 'q'
                    let most := if isQuiet then some 1 else most
                    let progress := all.foldl (display.step query name most)
                      ⟨[], 0, [], 0, 0, 0⟩
                    let outcome := if isInput path then
                        { outcome with input := progress.rest most (!isQuiet) invocation }
                      else outcome
                    let isChosen := 0 < progress.count
                    let nameEnd := [display.nameMark.getD '\n']
                    let shown :=
                      if options.has 'q' then []
                      else if listed.isSome then
                        if isChosen = (listed = some 'l') then name ++ nameEnd else []
                      else if options.has 'c' then
                        (if names then name ++ [display.nameMark.getD ':'] else []) ++
                          ofNat progress.count ++ ['\n']
                      else if isBinary text ∧ ¬options.has 'a' ∧ ¬options.has 'z' then
                        if isChosen then
                          invocation.complaint (name ++ ": binary file matches".toList)
                        else []
                      else
                        (if display.hasContext && hasShown && !progress.shown.isEmpty then
                          ['-', '-', '\n'] else []) ++ progress.shown.reverse.flatten
                    (outcome.say shown, isFound || isChosen, isWrong,
                      hasShown || (!isListing && !progress.shown.isEmpty)))
              (invocation.outcome, false, false, false)
            outcome.withStatus
              (if options.has 'q' ∧ isFound then 0
              else if isWrong then 2
              else if isFound then 0
              else 1)

end Search
end Shell
end Snippets
