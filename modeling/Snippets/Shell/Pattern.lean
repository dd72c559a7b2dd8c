import Snippets.Shell.Octets
import Snippets.Text.Word

/-!
# Patterns

A pattern of a shell: a star stands for any characters, a question mark for one, and
brackets for one of a set.  A quoted character stands for itself.  Where patterns may have
parentheses, a sign before them says how often one of the patterns inside is met.
-/

namespace Snippets
namespace Shell

/-- A character of a pattern, and whether it is quoted. -/
abbrev Glyph := Char × Bool

/-- Whether a character is a letter. -/
def isLetter (character : Char) : Bool :=
  character.isAlpha ||
    (0x80 ≤ character.toNat && Text.isWord character && character.toNat < strayCode)

/-- Whether a character is a capital letter. -/
def isCapital (character : Char) : Bool :=
  if character.toNat < 0x80 then character.isUpper
  else lowerCharacter character != character

/-- Whether a character is a small letter. -/
def isSmall (character : Char) : Bool :=
  if character.toNat < 0x80 then character.isLower
  else raiseCharacter character != character

/-- The named sets of characters. -/
def classes : List (String × (Char → Bool)) :=
  [("alpha", isLetter), ("digit", Char.isDigit),
   ("alnum", fun character => isLetter character || character.isDigit),
   ("upper", isCapital), ("lower", isSmall),
   ("space", fun character => " \t\n\r\x0b\x0c".toList.contains character),
   ("blank", fun character => character = ' ' || character = '\t'),
   ("punct", fun character =>
     33 ≤ character.toNat && character.toNat < 127 && !character.isAlphanum),
   ("cntrl", fun character => character.toNat < 32 || character.toNat = 127),
   ("graph", fun character => 33 ≤ character.toNat && character.toNat != 127),
   ("print", fun character => 32 ≤ character.toNat && character.toNat != 127),
   ("word", fun character => isLetter character || character.isDigit || character = '_'),
   ("xdigit", fun character =>
     character.isDigit || ('a' ≤ character && character ≤ 'f') ||
       ('A' ≤ character && character ≤ 'F'))]

/-- How sets of characters are read. -/
inductive SetKind where
  /-- As in patterns, in which a backslash takes the meaning from a member. -/
  | pattern
  /-- As in patterns of the plain shell, which has fewer signs. -/
  | plain
  deriving DecidableEq

/-- The set of a name between colons, and what follows it. -/
def namedClass? (rest : List Glyph) : Option ((Char → Bool) × List Glyph) :=
  let name := rest.takeWhile fun glyph => glyph.1.isAlpha
  match classes.lookup (String.ofList (name.map Prod.fst)), rest.drop name.length with
  | some test, (':', _) :: (']', _) :: rest => some (test, rest)
  | _, _ => none

/-- One member of a set, which may be written between signs, and what follows it. -/
def member? (kind : SetKind) (rest : List Glyph) : Option (Char × List Glyph) :=
  match kind, rest with
  | .plain, (member, _) :: rest => some (member, rest)
  | _, ('[', false) :: ('.', false) :: (member, _) :: ('.', false) :: (']', false) :: rest =>
      some (member, rest)
  | _, ('[', false) :: ('=', false) :: (member, _) :: ('=', false) :: (']', false) :: rest =>
      some (member, rest)
  | _, (member, _) :: rest => some (member, rest)
  | _, [] => none

/-- How sets of characters are read, and which characters count as the same. -/
structure SetStyle where
  /-- How sets are read. -/
  kind : SetKind
  /-- Whether capital and small letters that are members are the same. -/
  ignoresCase : Bool

/-- A test of characters that takes capital and small letters to be the same. -/
def inAnyCase (test : Char → Bool) (character : Char) : Bool :=
  test character || test (lowerCharacter character) || test (raiseCharacter character)

/-- The test for characters from one to another. -/
def SetStyle.between (style : SetStyle) (low high : Char) : Char → Bool :=
  let test := fun character : Char => decide (low ≤ character ∧ character ≤ high)
  if style.ignoresCase then inAnyCase test else test

/-- The test for the characters of a named set.  The plain shell knows no others than ASCII. -/
def SetStyle.named (style : SetStyle) (test : Char → Bool) : Char → Bool :=
  if style.kind = .plain then fun character => character.toNat < 0x80 && test character else test

/-- Reads the members of a set up to its bracket: whether a character is one of them, and
what follows. -/
def members (style : SetStyle) :
    Nat → Bool → (Char → Bool) → List Glyph → Option ((Char → Bool) × List Glyph)
  | 0, _, _, _ => none
  | fuel + 1, first, found, rest =>
      let goOn := fun (test : Char → Bool) (rest : List Glyph) =>
        members style fuel false (fun character => found character || test character) rest
      let unescaped := fun rest : List Glyph =>
        match rest with
        | ('\\', false) :: (member, _) :: rest => (member, true) :: rest
        | rest => rest
      match rest with
      | [] => none
      | ('[', false) :: (':', false) :: rest =>
          match namedClass? rest with
          | some (test, rest) => goOn (style.named test) rest
          | none => goOn (fun character => character = '[') ((':', true) :: rest)
      | (']', false) :: rest =>
          if first then goOn (fun character => character = ']') rest else some (found, rest)
      | rest =>
          match member? style.kind (unescaped rest) with
          | none => none
          | some (low, rest) =>
              match rest with
              | ('-', false) :: (']', false) :: after =>
                  goOn (fun character => style.between low low character || character = '-')
                    ((']', false) :: after)
              | ('-', false) :: after =>
                  match member? style.kind (unescaped after) with
                  | some (high, after) => goOn (style.between low high) after
                  | none => none
              | rest => goOn (style.between low low) rest

/-- Reads a set after its opening bracket: whether the characters are meant that do not belong to
it, whether a character belongs to it, and what follows. -/
def glyphSet (style : SetStyle) (rest : List Glyph) :
    Option ((Bool × (Char → Bool)) × List Glyph) :=
  let fuel := rest.length + 1
  let read := fun (isOpposite : Bool) (rest : List Glyph) =>
    (members style fuel true (fun _ => false) rest).map fun found =>
      ((isOpposite, found.1), found.2)
  match rest with
  | ('!', false) :: inside => read true inside
  | ('^', false) :: inside => if style.kind = .plain then read false rest else read true inside
  | rest => read false rest

namespace Pattern

/-- What a place of a pattern stands for. -/
inductive Item where
  /-- Any characters. -/
  | any
  /-- One character of a set. -/
  | one (test : Char → Bool)
  /-- One of some patterns, as often as a sign says. -/
  | choice (sign : Char) (choices : List (List Item))

/-- How patterns are read. -/
structure Style where
  /-- Whether patterns may have parentheses. -/
  extended : Bool
  /-- Whether capital and small letters are the same. -/
  ignoresCase : Bool
  /-- How sets are read. -/
  sets : SetKind

/-- A test of characters, which may take capital and small letters to be the same. -/
def Style.test (style : Style) (test : Char → Bool) : Char → Bool :=
  if style.ignoresCase then inAnyCase test else test

/-- How sets are read in patterns. -/
def Style.setStyle (style : Style) : SetStyle :=
  ⟨style.sets, style.ignoresCase⟩

/-- What is before the parenthesis that closes a pattern, in parts between bars, and what
follows it.  The part at hand is in reverse. -/
def alternatives (style : Style) : Nat → Nat → List Glyph → List (List Glyph) → List Glyph →
    Option (List (List Glyph) × List Glyph)
  | 0, _, _, _, _ => none
  | fuel + 1, depth, current, found, rest =>
      match rest with
      | [] => none
      | ('\\', false) :: glyph :: rest =>
          alternatives style fuel depth (glyph :: ('\\', false) :: current) found rest
      | ('[', false) :: rest =>
          match glyphSet style.setStyle rest with
          | some (_, after) =>
              let inside := rest.take (rest.length - after.length)
              alternatives style fuel depth (inside.reverse ++ ('[', false) :: current) found after
          | none => alternatives style fuel depth (('[', false) :: current) found rest
      | ('(', false) :: rest =>
          alternatives style fuel (depth + 1) (('(', false) :: current) found rest
      | (')', false) :: rest =>
          if depth = 0 then some ((current.reverse :: found).reverse, rest)
          else alternatives style fuel (depth - 1) ((')', false) :: current) found rest
      | ('|', false) :: rest =>
          if depth = 0 then alternatives style fuel depth [] (current.reverse :: found) rest
          else alternatives style fuel depth (('|', false) :: current) found rest
      | glyph :: rest => alternatives style fuel depth (glyph :: current) found rest

/-- The items of a pattern. -/
def items (style : Style) : Nat → List Glyph → List Item
  | 0, _ => []
  | fuel + 1, glyphs =>
      let literal := fun (character : Char) (rest : List Glyph) =>
        Item.one (style.test fun other => other = character) :: items style fuel rest
      let single := fun glyphs : List Glyph =>
        match glyphs with
        | [] => []
        | (character, true) :: rest => literal character rest
        | ('\\', false) :: (character, _) :: rest => literal character rest
        | ('*', false) :: rest => .any :: items style fuel rest
        | ('?', false) :: rest => .one (fun _ => true) :: items style fuel rest
        | ('[', false) :: rest =>
            match glyphSet style.setStyle rest with
            | some ((isOpposite, test), after) =>
                .one (fun character => test character != isOpposite) :: items style fuel after
            | none => literal '[' rest
        | (character, false) :: rest => literal character rest
      match glyphs with
      | (sign, false) :: ('(', false) :: rest =>
          if style.extended ∧ "?*+@!".toList.contains sign then
            match alternatives style (rest.length + 1) 0 [] [] rest with
            | some (found, after) =>
                .choice sign (found.map (items style fuel)) :: items style fuel after
            | none => single glyphs
          else single glyphs
      | glyphs => single glyphs

/-- All ends of a text, the text first. -/
def tails : List Char → List (List Char)
  | [] => [[]]
  | character :: rest => (character :: rest) :: tails rest

/-- Ends of one text, each of them once. -/
def distinct (ends : List (List Char)) : List (List Char) :=
  match ends with
  | [] => []
  | [only] => [only]
  | ends =>
      (ends.foldl
        (fun (found : List (List Char) × List Nat) rest =>
          let length := rest.length
          if found.2.contains length then found else (rest :: found.1, length :: found.2))
        ([], [])).1.reverse

mutual

/-- What may be left of a text after an item at its start. -/
def rests : Nat → Item → List Char → List (List Char)
  | 0, _, _ => []
  | fuel + 1, item, text =>
      match item with
      | .any => tails text
      | .one test =>
          match text with
          | character :: rest => if test character then [rest] else []
          | [] => []
      | .choice sign choices =>
          let once := fun text : List Char =>
            distinct (choices.flatMap fun items => runItems fuel items [text])
          match sign with
          | '?' => distinct (text :: once text)
          | '@' => once text
          | '!' =>
              let found := (once text).map List.length
              (tails text).filter fun rest => !found.contains rest.length
          | '+' => again fuel choices (text.length + 1) [] (once text)
          | _ => again fuel choices (text.length + 1) [] [text]

/-- What may be left after any number of choices, given what has been found and what is
new. -/
def again : Nat → List (List Item) → Nat → List (List Char) → List (List Char) →
    List (List Char)
  | 0, _, _, found, _ => found
  | fuel + 1, choices, turns, found, new =>
      let known := found.map List.length
      let fresh := (distinct new).filter fun rest => !known.contains rest.length
      match turns, fresh with
      | 0, _ => found
      | _, [] => found
      | turns + 1, fresh =>
          again fuel choices turns (found ++ fresh)
            (choices.flatMap fun items => runItems fuel items fresh)

/-- What may be left of texts after items one after the other. -/
def runItems : Nat → List Item → List (List Char) → List (List Char)
  | 0, _, _ => []
  | _, [], texts => texts
  | fuel + 1, item :: rest, texts =>
      match texts with
      | [] => []
      | texts => runItems fuel rest (distinct (texts.flatMap (rests fuel item)))

end

/-- A pattern that has been read. -/
structure Compiled where
  /-- The items. -/
  items : List Item
  /-- The fuel for a match. -/
  fuel : Nat

/-- Reads a pattern. -/
def compile (style : Style) (pattern : List Glyph) : Compiled :=
  ⟨items style (pattern.length + 1) pattern, 4 * pattern.length + 16⟩

/-- What may be left of a text after a pattern at its start. -/
def Compiled.rests (compiled : Compiled) (text : List Char) : List (List Char) :=
  runItems (compiled.fuel + text.length) compiled.items [text]

/-- Whether a pattern stands for a text as a whole. -/
def Compiled.isMatch (compiled : Compiled) (text : List Char) : Bool :=
  (compiled.rests text).any List.isEmpty

/-- Whether a pattern stands for a text as a whole. -/
def isMatch (style : Style) (pattern : List Glyph) (text : List Char) : Bool :=
  (compile style pattern).isMatch text

/-- The pattern that characters spell, in which a backslash takes the meaning from the character
after it. -/
def ofText : List Char → List Glyph
  | '\\' :: character :: rest => (character, true) :: ofText rest
  | character :: rest => (character, false) :: ofText rest
  | [] => []

/-- Whether a pattern has any character with a meaning. -/
def isActive (style : Style) (pattern : List Glyph) : Bool :=
  let closes := (pattern.dropWhile fun glyph => glyph != ('[', false)).any fun glyph =>
    glyph.1 = ']'
  pattern.any (fun glyph =>
    !glyph.2 && ("*?".toList.contains glyph.1 || (glyph.1 = '[' && closes))) ||
  (style.extended && (pattern.zip (pattern.drop 1)).any fun (first, second) =>
    !first.2 && "?*+@!".toList.contains first.1 && second = ('(', false))

/-- The number of characters at the start of a text that a pattern stands for. -/
def Compiled.startLength? (compiled : Compiled) (longest : Bool) (text : List Char) :
    Option Nat :=
  let lengths := (compiled.rests text).map fun rest => text.length - rest.length
  if longest then lengths.max? else lengths.min?

/-- The number of characters at the end of a text that a pattern stands for. -/
def Compiled.endLength? (compiled : Compiled) (longest : Bool) (text : List Char) :
    Option Nat :=
  let ends := tails text
  ((if longest then ends else ends.reverse).find? compiled.isMatch).map List.length

/-- A text in which what a pattern stands for is replaced, once or everywhere. -/
def Compiled.replace (compiled : Compiled) (replacement : List Char → List Char)
    (everywhere : Bool) : Nat → List Char → List Char
  | 0, text => text
  | fuel + 1, text =>
      match text with
      | [] => []
      | character :: rest =>
          match compiled.startLength? true text with
          | some (length + 1) =>
              let after := text.drop (length + 1)
              replacement (text.take (length + 1)) ++
                (if everywhere then compiled.replace replacement everywhere fuel after
                else after)
          | _ => character :: compiled.replace replacement everywhere fuel rest

end Pattern

/-! ## Dropping the start or the end of several texts

In the plain shell a pattern that is dropped from several texts sees them one after the other,
up to where one of them ends. -/

namespace Trimming

/-- Drops what matches at the start.  A first text that matches as a whole takes the others with
it where the longest match is wanted. -/
def dropStart (longest : Bool) (compiled : Pattern.Compiled) :
    List (List Char) → List (List Char)
  | [] => [[]]
  | first :: rest =>
      if longest ∧ !rest.isEmpty ∧ compiled.startLength? true first = some first.length then [[]]
      else first.drop ((compiled.startLength? longest first).getD 0) :: rest

/-- Drops the shortest end that matches, with all texts after it.  The texts are in reverse. -/
def dropShortestEnd (compiled : Pattern.Compiled) :
    List (List Char) → Option (List (List Char))
  | [] => none
  | last :: rest =>
      match compiled.endLength? false last with
      | some length => some (last.take (last.length - length) :: rest)
      | none => dropShortestEnd compiled rest

/-- Drops what matches at the end.  The longest match is looked for in the first text alone. -/
def dropEnd (longest : Bool) (compiled : Pattern.Compiled) (texts : List (List Char)) :
    List (List Char) :=
  if longest then
    match texts with
    | [] => [[]]
    | first :: rest =>
        match compiled.endLength? true first with
        | some length => [first.take (first.length - length)]
        | none => first :: rest
  else ((dropShortestEnd compiled texts.reverse).getD texts.reverse).reverse

end Trimming
end Shell
end Snippets
