import Snippets.Shell.Pattern
import Snippets.Shell.Words

/-!
# Regular expressions

The basic and the extended notation.  Of all matches that start at one place the longest one
counts, and of those of one length the one whose first groups are longest.
-/

namespace Snippets
namespace Shell

/-- A regular expression. -/
inductive Regex where
  /-- Nothing. -/
  | empty
  /-- One character of a set. -/
  | one (test : Char → Bool)
  /-- One character that does not belong to a set, and that octets encode. -/
  | other (test : Char → Bool)
  /-- The start of the text. -/
  | start
  /-- The end of the text. -/
  | stop
  /-- A place between two characters, of which the first and the second are part of a word or
  not. -/
  | edge (test : Bool → Bool → Bool)
  /-- One expression after the other. -/
  | sequence (first second : Regex)
  /-- One of two expressions. -/
  | choice (first second : Regex)
  /-- An expression from a least to a greatest number of times. -/
  | times (least : Nat) (most : Option Nat) (body : Regex)
  /-- An expression whose match is remembered under a number. -/
  | group (number : Nat) (body : Regex)
  /-- The text that is remembered under a number. -/
  | same (number : Nat)
  /-- An expression as seldom as possible, from a least to a greatest number of times. -/
  | seldom (least : Nat) (most : Option Nat) (body : Regex)
  /-- A place that an expression matches after, or does not. -/
  | ahead (holds : Bool) (body : Regex)
  /-- A place that an expression matches before, or does not. -/
  | behind (holds : Bool) (body : Regex)
  /-- The place where the match is taken to start. -/
  | keep
  deriving Inhabited

namespace Regex

/-- What has been matched: the texts of groups. -/
abbrev Groups := List (Nat × List Char)

/-- Puts the text of a group in front. -/
def remember (number : Nat) (text : List Char) (groups : Groups) : Groups :=
  (number, text) :: groups.filter fun group => group.1 != number

/-- Whether a character is part of a word. -/
def isWordCharacter (character : Char) : Bool :=
  isLetter character || character.isDigit || character = '_'

/-- Whether a character stands for an octet that encodes nothing. -/
def isStray (character : Char) : Bool :=
  strayCode ≤ character.toNat

/-- Whether an expression stands for one character. -/
def isSingle : Regex → Bool
  | one _ | other _ => true
  | _ => false

/-- Whether the first match that is found may be shorter than another one. -/
def isUncertain : Regex → Bool
  | choice _ _ => true
  | sequence first second => first.isUncertain || second.isUncertain
  | times _ _ body => !body.isSingle || body.isUncertain
  | group _ body => body.isUncertain
  | _ => false

/-- A match at the start of a text: the rest of the text, and the texts of groups. -/
structure Outcome where
  /-- What follows the match. -/
  rest : List Char
  /-- The number of characters that follow. -/
  left : Nat
  /-- The texts of groups. -/
  groups : Groups

/-- Whether the groups of one match are longer than those of another, from the first group
that differs. -/
def longerGroups (count : Nat) (first second : Groups) : Bool :=
  let lengths := fun groups : Groups =>
    (List.range count).map fun number =>
      ((groups.lookup (number + 1)).map fun text => text.length + 1).getD 0
  let differing := ((lengths first).zip (lengths second)).find? fun (x, y) => x != y
  differing.any fun (x, y) => y < x

/-- The better of two matches: the longer one. -/
def better (count : Nat) (first second : Option Outcome) : Option Outcome :=
  match first, second with
  | some x, some y =>
      if y.left < x.left ∨ (y.left = x.left ∧ longerGroups count y.groups x.groups) then some y
      else some x
  | some x, none => some x
  | none, second => second

/-- How a text is searched. -/
structure Search where
  /-- The number of groups. -/
  count : Nat
  /-- Whether all matches are compared. -/
  all : Bool
  /-- Whether the start and the end of a line count as those of the text. -/
  multiline : Bool

/-- The number under which the place is remembered where a match is taken to start. -/
def keptPlace : Nat := 1000000

/-- Matches an expression at the start of a text, which follows some characters, the last of
which is first, and goes on with what follows. -/
def run (search : Search) : Nat → Regex → List Char → List Char → Groups →
    (List Char → List Char → Groups → Option Outcome) → Option Outcome
  | 0, _, _, _, _, _ => none
  | fuel + 1, regex, before, text, groups, next =>
      match regex with
      | empty => next before text groups
      | one test =>
          match text with
          | character :: rest =>
              if test character then next (character :: before) rest groups else none
          | [] => none
      | other test =>
          match text with
          | character :: rest =>
              if test character || isStray character then none
              else next (character :: before) rest groups
          | [] => none
      | start =>
          if before.isEmpty ∨ (search.multiline ∧ before.head? = some '\n') then
            next before text groups
          else none
      | stop =>
          if text.isEmpty ∨ (search.multiline ∧ text.head? = some '\n') then
            next before text groups
          else none
      | edge test =>
          if test (before.head?.any isWordCharacter) (text.head?.any isWordCharacter) then
            next before text groups
          else none
      | sequence first second =>
          run search fuel first before text groups fun before text groups =>
            run search fuel second before text groups next
      | choice first second =>
          let found := run search fuel first before text groups next
          if search.all ∨ found.isNone then
            better search.count found (run search fuel second before text groups next)
          else found
      | .times least most body =>
          let again :=
            if most = some 0 then none
            else
              run search fuel body before text groups fun after rest groups =>
                if rest.length = text.length then none
                else
                  run search fuel (.times (least - 1) (most.map (· - 1)) body) after rest groups
                    next
          let here := fun _ : Unit =>
            if least = 0 then next before text groups
            else if again.isSome then none
            else
              -- What is left to be met may be met by nothing.
              run search fuel body before text groups fun after rest groups =>
                if rest.length = text.length then next after rest groups else none
          if search.all ∨ again.isNone then better search.count again (here ()) else again
      | group number body =>
          run search fuel body before text groups fun after rest groups =>
            next after rest (remember number (text.take (text.length - rest.length)) groups)
      | same number =>
          match groups.lookup number with
          | none => none
          | some found =>
              if found.isPrefixOf text then
                next (found.reverse ++ before) (text.drop found.length) groups
              else none
      | .seldom least most body =>
          let here := if least = 0 then next before text groups else none
          if here.isSome ∨ most = some 0 then here
          else
            run search fuel body before text groups fun after rest groups =>
              if rest.length = text.length ∧ least = 0 then none
              else
                run search fuel (.seldom (least - 1) (most.map (· - 1)) body) after rest groups next
      | .ahead holds body =>
          let found := run search fuel body before text groups fun _ rest groups =>
            some ⟨rest, rest.length, groups⟩
          match found, holds with
          | some found, true => next before text found.groups
          | none, false => next before text groups
          | _, _ => none
      | .behind holds body =>
          let found := (List.range (before.length + 1)).any fun count : Nat =>
            (run search fuel body (before.drop count) ((before.take count).reverse ++ text) groups
              fun _ rest groups =>
                if rest.length = text.length then some ⟨rest, rest.length, groups⟩
                else none).isSome
          if found = holds then next before text groups else none
      | keep => next before text (remember keptPlace before groups)

end Regex

/-- A regular expression that has been read. -/
structure Expression where
  /-- The expression. -/
  regex : Regex
  /-- The number of groups. -/
  count : Nat
  /-- Whether the start and the end of a line count as those of the text. -/
  multiline : Bool
  /-- Whether the first match that is found counts, and not the longest one. -/
  takesFirst : Bool

namespace Expression

/-- A match at the start of a text, which follows some characters, the last of which is first. -/
def matchStart (expression : Expression) (before text : List Char) : Option Regex.Outcome :=
  let search : Regex.Search :=
    ⟨expression.count, !expression.takesFirst && expression.regex.isUncertain,
      expression.multiline⟩
  Regex.run search (64 * (text.length + 16)) expression.regex before text []
    fun _ rest groups => some ⟨rest, rest.length, groups⟩

/-- A match in a text: what is before it, what is matched, what follows, and groups. -/
structure Found where
  /-- What is before the match. -/
  before : List Char
  /-- What is matched. -/
  text : List Char
  /-- What follows the match. -/
  after : List Char
  /-- The texts of groups. -/
  groups : Regex.Groups

/-- A match of a text that follows some characters, after what has been passed over, both of which
are in reverse.  Part of what is matched may be taken to be passed over, too. -/
def foundAt (before passed text : List Char) (found : Regex.Outcome) : Found :=
  let matched := text.take (text.length - found.left)
  match found.groups.lookup Regex.keptPlace with
  | none => ⟨passed.reverse, matched, found.rest, found.groups⟩
  | some kept =>
      let count := kept.length - before.length
      ⟨passed.reverse ++ matched.take count, matched.drop count, found.rest, found.groups⟩

/-- The first match in a text that follows some characters, the last of which is first, after the
characters passed over, which are in reverse. -/
def findFrom (expression : Expression) (before passed : List Char) : List Char → Option Found
  | [] => (expression.matchStart before []).map (foundAt before passed [])
  | character :: rest =>
      match expression.matchStart before (character :: rest) with
      | some found => some (foundAt before passed (character :: rest) found)
      | none => findFrom expression (character :: before) (character :: passed) rest

/-- The first match in a text. -/
def find (expression : Expression) (text : List Char) : Option Found :=
  expression.findFrom [] [] text

end Expression

/-- How regular expressions are written. -/
structure Grammar where
  /-- Whether parentheses, bars and braces have a meaning without a backslash. -/
  extended : Bool
  /-- Whether plus signs and question marks have a meaning without a backslash. -/
  countsPlainly : Bool
  /-- Whether there must be something that a sign repeats, and the braces of a repetition must
  be closed. -/
  strict : Bool
  /-- Whether a parenthesis that closes nothing stands for itself. -/
  allowsClosing : Bool
  /-- Whether the name of a set may not stand in one pair of brackets only. -/
  refusesBareNames : Bool

namespace Grammar

/-- The grammar of the programs that take odd expressions as they are. -/
def lenient (extended : Bool) : Grammar :=
  ⟨extended, extended, false, extended, false⟩

/-- The grammar of the programs that refuse odd expressions. -/
def careful (extended : Bool) : Grammar :=
  ⟨extended, extended, true, false, false⟩

/-- The grammar of conditions. -/
def conditional : Grammar :=
  ⟨true, true, true, true, false⟩

/-- The grammar of paths. -/
def ofPaths : Grammar :=
  ⟨false, true, false, false, false⟩

/-- A grammar in which the name of a set may not stand in one pair of brackets only. -/
def withoutBareNames (grammar : Grammar) : Grammar :=
  { grammar with refusesBareNames := true }

end Grammar

/-- Why a text is no regular expression. -/
inductive Fault where
  /-- There is nothing that a sign repeats. -/
  | repetition
  /-- A parenthesis is not closed. -/
  | opening
  /-- A parenthesis closes nothing. -/
  | closing
  /-- A set is not closed. -/
  | bracket
  /-- The braces of a repetition are not closed. -/
  | brace
  /-- The braces of a repetition hold something else than numbers. -/
  | bounds
  /-- A repetition has too great a number. -/
  | size
  /-- There is no group of a number. -/
  | reference
  /-- A backslash is the last character. -/
  | backslash
  /-- There is no set of a name. -/
  | setName
  /-- There is no member of a name. -/
  | memberName
  /-- The ends of a range are in the wrong order. -/
  | range
  /-- The name of a set stands in one pair of brackets only. -/
  | bareName
  /-- Anything else. -/
  | invalid

/-- The words for a fault. -/
def Fault.words : Fault → String
  | .repetition => "Invalid preceding regular expression"
  | .opening => "Unmatched ( or \\("
  | .closing => "Unmatched ) or \\)"
  | .bracket => "Unmatched [, [^, [:, [., or [="
  | .brace => "Unmatched \\\x7b"
  | .bounds => "Invalid content of \\\x7b\\\x7d"
  | .size => "Regular expression too big"
  | .reference => "Invalid back reference"
  | .backslash => "Trailing backslash"
  | .setName => "Invalid character class name"
  | .memberName => "Invalid collation character"
  | .range => "Invalid range end"
  | .bareName => "character class syntax is [[:space:]], not [:space:]"
  | .invalid => "Invalid regular expression"

namespace Regex

/-- The greatest number of a repetition. -/
def greatestBound : Nat := 32767

/-- Whether a text starts with the sign of a grammar. -/
def atSign (grammar : Grammar) (sign : Char) (rest : List Char) : Bool :=
  if grammar.extended then rest.head? = some sign else ['\\', sign].isPrefixOf rest

/-- Whether a text starts with a sign that says how often something is met. -/
def atCount (grammar : Grammar) (sign : Char) (rest : List Char) : Bool :=
  if grammar.countsPlainly then rest.head? = some sign else ['\\', sign].isPrefixOf rest

/-- The number of characters of a sign in a grammar. -/
def signLength (grammar : Grammar) : Nat :=
  if grammar.extended then 1 else 2

/-- The number that digits spell, unless they are none. -/
def boundOf (digits : List Char) : Option Nat :=
  if digits.isEmpty then none
  else some (digits.foldl (fun value digit => value * 10 + (digit.toNat - 48)) 0)

/-- The bounds of a repetition after its opening brace, and what follows it.  In a grammar that is
not strict, braces that hold something else have no meaning. -/
def bounds (grammar : Grammar) (rest : List Char) :
    Except Fault (Option (Nat × Option Nat × List Char)) :=
  let isLenient := grammar.extended && !grammar.strict
  let least := rest.takeWhile Char.isDigit
  let after := rest.drop least.length
  let (hasComma, most, after) : Bool × List Char × List Char := match after with
    | ',' :: after =>
        let digits := after.takeWhile Char.isDigit
        (true, digits, after.drop digits.length)
    | after => (false, least, after)
  if !atSign grammar '\x7d' after then
    if isLenient then .ok none
    else
      let isClosed := (List.range (after.length + 1)).any fun count : Nat =>
        atSign grammar '\x7d' (after.drop count)
      .error (if isClosed then .bounds else .brace)
  else if least.isEmpty && !hasComma then .error .bounds
  else
    let low := (boundOf least).getD 0
    let high := boundOf most
    if high.any fun high => high < low then .error .bounds
    else if greatestBound < high.getD low then .error .size
    else .ok (some (low, high, after.drop (signLength grammar)))

/-- Reads a sign that repeats what is before it, if there is one: the bounds, whether it may not
follow another one, and what follows it. -/
def repetition? (grammar : Grammar) (rest : List Char) :
    Except Fault (Option (Nat × Option Nat × Bool × List Char)) :=
  let alone := grammar.strict && !grammar.extended
  match rest with
  | '*' :: rest => .ok (some (0, none, alone, rest))
  | rest =>
      let after := rest.drop (if grammar.countsPlainly then 1 else 2)
      if atCount grammar '+' rest then .ok (some (1, none, false, after))
      else if atCount grammar '?' rest then .ok (some (0, some 1, false, after))
      else if atSign grammar '\x7b' rest then
        (bounds grammar (rest.drop (signLength grammar))).map fun found =>
          found.map fun (least, most, rest) => (least, most, alone, rest)
      else .ok none

/-- Repeats an expression as the signs after it say. -/
def repeated (grammar : Grammar) : Nat → Bool → Regex → List Char →
    Except Fault (Regex × List Char)
  | 0, _, regex, rest => .ok (regex, rest)
  | fuel + 1, isFirst, regex, rest =>
      match repetition? grammar rest with
      | .error fault => .error fault
      | .ok none => .ok (regex, rest)
      | .ok (some (least, most, alone, rest)) =>
          if alone && !isFirst then .error .repetition
          else repeated grammar fuel false (.times least most regex) rest

/-- Drops the signs at a place where there is nothing to repeat, in a grammar that passes over
them. -/
def withoutRepetitions (grammar : Grammar) : Nat → List Char → List Char
  | 0, rest => rest
  | fuel + 1, rest =>
      match repetition? grammar rest with
      | .ok (some (_, _, _, after)) => withoutRepetitions grammar fuel after
      | _ => rest

/-- The characters that letters after a backslash stand for. -/
def letterClasses : List (Char × Regex) :=
  let isSpace := fun character : Char => " \t\n\r\x0b\x0c".toList.contains character
  [('w', .one isWordCharacter), ('W', .other isWordCharacter), ('s', .one isSpace),
   ('S', .other isSpace)]

/-- The places that signs after a backslash stand for. -/
def letterEdges : List (Char × Regex) :=
  [('<', .edge fun before after => !before && after),
   ('>', .edge fun before after => before && !after),
   ('b', .edge fun before after => before != after),
   ('B', .edge fun before after => before == after),
   ('\x60', .start), ('\'', .stop)]

/-- A member of a set: one that is between signs has a name, and a set of a name is no member. -/
inductive Member where
  /-- A character. -/
  | one (character : Char)
  /-- The characters of a set. -/
  | named (test : Char → Bool)

/-- The name between two signs in a set, and what follows it. -/
def nameUpTo (sign : Char) (found : List Char) : List Char → Option (List Char × List Char)
  | [] => none
  | [_] => none
  | first :: second :: rest =>
      if first = sign ∧ second = ']' then some (found.reverse, rest)
      else nameUpTo sign (first :: found) (second :: rest)

/-- Reads a member of a set. -/
def member? (rest : List Char) : Except Fault (Member × List Char) :=
  match rest with
  | '[' :: sign :: after =>
      if ".=:".toList.contains sign then
        match nameUpTo sign [] after, sign with
        | none, _ => .error .bracket
        | some (name, rest), ':' =>
            match classes.lookup (String.ofList name) with
            | some test =>
                if name = "word".toList then .error .setName else .ok (.named test, rest)
            | none => .error .setName
        | some ([character], rest), _ =>
            if character.toNat < 0x80 then .ok (.one character, rest) else .error .memberName
        | some _, _ => .error .memberName
      else .ok (.one '[', sign :: after)
  | character :: rest => .ok (.one character, rest)
  | [] => .error .bracket

/-- Reads the members of a set up to its bracket. -/
def setMembers : Nat → Bool → (Char → Bool) → List Char → Except Fault ((Char → Bool) × List Char)
  | 0, _, _, _ => .error .bracket
  | fuel + 1, isFirst, found, rest =>
      let goOn := fun (test : Char → Bool) (rest : List Char) =>
        setMembers fuel false (fun character => found character || test character) rest
      match rest, isFirst with
      | [], _ => .error .bracket
      | ']' :: rest, false => .ok (found, rest)
      | '-' :: next :: _, false =>
          if next = ']' then goOn (· = '-') (rest.drop 1) else .error .range
      | rest, _ =>
          match member? rest with
          | .error fault => .error fault
          | .ok (low, rest) =>
              let single : Char → Bool := match low with
                | .one character => (· = character)
                | .named test => test
              match rest with
              | '-' :: ']' :: _ => goOn single rest
              | ['-'] => .error .bracket
              | '-' :: after =>
                  match low, member? after with
                  | _, .error fault => .error fault
                  | .one low, .ok (.one high, after) =>
                      if high < low then .error .range
                      else goOn (fun character => decide (low ≤ character ∧ character ≤ high)) after
                  | _, _ => .error .range
              | rest => goOn single rest

/-- Whether what follows an opening bracket is a name between colons, as it stands in another pair
of brackets. -/
def isBareName (rest : List Char) : Bool :=
  let inside := rest.takeWhile (· != ']')
  inside.length < rest.length && 3 ≤ inside.length && inside.head? = some ':' &&
    inside.getLast? = some ':' && inside.all fun character =>
      character = ':' || character.isAlpha

/-- Reads a set after its opening bracket. -/
def setOf (grammar : Grammar) (rest : List Char) : Except Fault (Regex × List Char) :=
  let read := fun (isOpposite : Bool) (rest : List Char) =>
    if grammar.refusesBareNames && isBareName rest then .error .bareName
    else
      (setMembers (rest.length + 1) true (fun _ => false) rest).map fun (test, rest) =>
        (if isOpposite then Regex.other test else .one test, rest)
  match rest with
  | [] => .error .invalid
  | '^' :: rest => read true rest
  | rest => read false rest

/-- The groups that have been read. -/
structure Numbering where
  /-- The number of groups that have been opened. -/
  count : Nat
  /-- The numbers of the groups that have been closed. -/
  closed : List Nat

mutual

/-- Reads choices: the expression, what follows, and the groups so far. -/
def choices (grammar : Grammar) : Nat → Bool → Numbering → List Char →
    Except Fault (Regex × List Char × Numbering)
  | 0, _, _, _ => .error .invalid
  | fuel + 1, isInner, groups, rest =>
      match branch grammar fuel isInner groups true .empty rest with
      | .error fault => .error fault
      | .ok (first, rest, groups) =>
          if atSign grammar '|' rest then
            match choices grammar fuel isInner groups (rest.drop (signLength grammar)) with
            | .error fault => .error fault
            | .ok (second, rest, groups) => .ok (.choice first second, rest, groups)
          else .ok (first, rest, groups)

/-- Reads expressions one after the other, after those found. -/
def branch (grammar : Grammar) : Nat → Bool → Numbering → Bool → Regex → List Char →
    Except Fault (Regex × List Char × Numbering)
  | 0, _, _, _, _, _ => .error .invalid
  | fuel + 1, isInner, groups, isFirst, found, rest =>
      let rest := if isFirst && grammar.extended && !grammar.strict then
          withoutRepetitions grammar (rest.length + 1) rest
        else rest
      if rest.isEmpty || atSign grammar '|' rest || (isInner && atSign grammar ')' rest) then
        .ok (found, rest, groups)
      else
        match atom grammar fuel groups isFirst rest with
        | .error fault => .error fault
        | .ok (regex, rest, groups) =>
            let isPlace : Bool := match regex with
              | start | stop | edge _ => true
              | _ => false
            match if isPlace then .ok (regex, rest)
              else repeated grammar (rest.length + 1) true regex rest with
            | .error fault => .error fault
            | .ok (regex, rest) =>
                branch grammar fuel isInner groups isPlace (.sequence found regex) rest

/-- Reads one expression. -/
def atom (grammar : Grammar) : Nat → Numbering → Bool → List Char →
    Except Fault (Regex × List Char × Numbering)
  | 0, _, _, _ => .error .invalid
  | fuel + 1, groups, isFirst, rest =>
      let literal := fun (character : Char) (rest : List Char) =>
        (.ok (.one fun other => other = character, rest, groups) :
          Except Fault (Regex × List Char × Numbering))
      let extended := grammar.extended
      if atSign grammar '(' rest then
        let number := groups.count + 1
        match choices grammar fuel true { groups with count := number }
            (rest.drop (signLength grammar)) with
        | .error fault => .error fault
        | .ok (body, rest, groups) =>
            if atSign grammar ')' rest then
              .ok (.group number body, rest.drop (signLength grammar),
                { groups with closed := number :: groups.closed })
            else .error .opening
      else if atSign grammar ')' rest then
        if grammar.allowsClosing then literal ')' (rest.drop (signLength grammar))
        else .error .closing
      else
        match repetition? grammar rest with
        | .error fault =>
            if grammar.strict then .error .repetition
            else if extended then .error fault
            else literal '\x7b' (rest.drop (signLength grammar))
        | .ok (some (_, _, alone, _)) =>
            if grammar.strict && (extended || (alone && rest.head? ≠ some '*')) then
              .error .repetition
            else
              let rest := if rest.head? = some '\\' then rest.drop 1 else rest
              literal (rest.head?.getD '*') (rest.drop 1)
        | .ok none =>
            match rest with
            | '.' :: rest => .ok (.other (· = '\x00'), rest, groups)
            | '[' :: rest => (setOf grammar rest).map fun (regex, rest) => (regex, rest, groups)
            | '^' :: rest =>
                if extended || isFirst then .ok (.start, rest, groups) else literal '^' rest
            | '$' :: rest =>
                if extended || rest.isEmpty || atSign grammar ')' rest ||
                    atSign grammar '|' rest then
                  .ok (.stop, rest, groups)
                else literal '$' rest
            | '\\' :: character :: rest =>
                match letterClasses.lookup character, letterEdges.lookup character with
                | some single, _ => .ok (single, rest, groups)
                | none, some place => .ok (place, rest, groups)
                | none, none =>
                    let number := character.toNat - 48
                    if character.isDigit && number != 0 then
                      if groups.closed.contains number then .ok (.same number, rest, groups)
                      else .error .reference
                    else literal character rest
            | ['\\'] => .error .backslash
            | character :: rest => literal character rest
            | [] => .error .invalid

end

/-- An expression that does not tell capital letters from small ones. -/
def foldCase : Regex → Regex
  | .one test => .one (inAnyCase test)
  | .other test => .other (inAnyCase test)
  | .sequence first second => .sequence (foldCase first) (foldCase second)
  | .choice first second => .choice (foldCase first) (foldCase second)
  | .times least most body => .times least most (foldCase body)
  | .seldom least most body => .seldom least most (foldCase body)
  | .ahead holds body => .ahead holds (foldCase body)
  | .behind holds body => .behind holds (foldCase body)
  | .group number body => .group number (foldCase body)
  | regex => regex

end Regex

namespace Expression

/-- Reads a regular expression. -/
def ofText (grammar : Grammar) (text : List Char) : Except Fault Expression :=
  match Regex.choices grammar (4 * text.length + 16) false ⟨0, []⟩ text with
  | .error fault => .error fault
  | .ok (regex, [], groups) => .ok ⟨regex, groups.count, false, false⟩
  | .ok _ => .error .invalid

/-- An expression that does not tell capital letters from small ones. -/
def foldCase (expression : Expression) : Expression :=
  { expression with regex := expression.regex.foldCase }

/-- The expression for a text in which no sign has a meaning. -/
def literal (text : List Char) : Expression :=
  ⟨text.foldr (fun character rest => .sequence (.one (· = character)) rest) .empty, 0, false,
    false⟩

end Expression
end Shell
end Snippets
