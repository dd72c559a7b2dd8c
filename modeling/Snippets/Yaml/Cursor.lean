import Snippets.Text.Ranges

/-!
# A place in a stream

The characters that are still to be read, with their number, the line and the column.  A
byte order mark takes up no column.  A stream holds printable characters only.  Spaces, tabs
and five kinds of line break separate what it says; the end of the stream separates like a
line break.
-/

namespace Snippets
namespace Yaml

/-- The characters that a stream may hold. -/
def allowedRanges : List (Nat × Nat) :=
  [(0x9, 0xA), (0xD, 0xD), (0x20, 0x7E), (0x85, 0x85), (0xA0, 0xD7FF), (0xE000, 0xFFFD),
   (0x10000, 0x10FFFF)]

/-- Whether a stream may hold a character. -/
def isAllowed (character : Char) : Bool :=
  Text.inRanges allowedRanges character.toNat

/-- Whether a character ends a line. -/
def isBreak (character : Char) : Bool :=
  character = '\n' || character = '\r' || character = '\x85' || character = '\u2028' ||
    character = '\u2029'

/-- Whether a character is a space or a tab. -/
def isSpace (character : Char) : Bool :=
  character = ' ' || character = '\t'

/-- Whether the stream, or a line of it, ends here. -/
def endsLine : Option Char → Bool
  | none => true
  | some character => isBreak character

/-- Whether a space, a line break or the end of the stream is here. -/
def endsPart : Option Char → Bool
  | none => true
  | some character => character = ' ' || isBreak character

/-- Whether a space, a tab, a line break or the end of the stream is here. -/
def endsWord : Option Char → Bool
  | none => true
  | some character => isSpace character || isBreak character

/-- Whether a character may be part of a name. -/
def isNameCharacter (character : Char) : Bool :=
  character.isAlphanum || character = '-' || character = '_'

/-- Whether a character may be part of a tag. -/
def isTagCharacter (character : Char) : Bool :=
  character.isAlphanum || "-;/?:@&=+$,_.!~*'()[]%".toList.contains character

/-- Whether a character is a hexadecimal digit. -/
def isHexDigit (character : Char) : Bool :=
  character.isDigit || ('a' ≤ character && character ≤ 'f') ||
    ('A' ≤ character && character ≤ 'F')

/-- A place in a stream. -/
structure Cursor where
  /-- The characters from here on. -/
  rest : List Char
  /-- The number of characters from here on. -/
  left : Nat
  /-- The number of line breaks before. -/
  line : Nat
  /-- The number of characters of the line before. -/
  column : Nat

namespace Cursor

/-- The start of a stream. -/
def start (characters : List Char) : Cursor :=
  ⟨characters, characters.length, 0, 0⟩

/-- The character here. -/
def next? (cursor : Cursor) : Option Char :=
  cursor.rest.head?

/-- The character after the given number of others. -/
def ahead? (cursor : Cursor) (count : Nat) : Option Char :=
  cursor.rest[count]?

/-- The place after one character. -/
def advance (cursor : Cursor) : Cursor :=
  match cursor.rest with
  | [] => cursor
  | '\r' :: rest =>
      if rest.head? = some '\n' then ⟨rest, cursor.left - 1, cursor.line, cursor.column + 1⟩
      else ⟨rest, cursor.left - 1, cursor.line + 1, 0⟩
  | character :: rest =>
      if isBreak character then ⟨rest, cursor.left - 1, cursor.line + 1, 0⟩
      else if character = '\uFEFF' then ⟨rest, cursor.left - 1, cursor.line, cursor.column⟩
      else ⟨rest, cursor.left - 1, cursor.line, cursor.column + 1⟩

/-- The place after a number of characters. -/
def skip (cursor : Cursor) : Nat → Cursor
  | 0 => cursor
  | count + 1 => cursor.advance.skip count

/-- The characters from here on that have a property, and the place after them. -/
def span (property : Char → Bool) (cursor : Cursor) : List Char × Cursor :=
  let found := cursor.rest.takeWhile property
  (found, cursor.skip found.length)

/-- The place after all characters that have a property. -/
def skipWhile (property : Char → Bool) (cursor : Cursor) : Cursor :=
  (cursor.span property).2

/-- The line break here, if there is one, and the place after it.  The separators of
lines and of paragraphs are kept; all other breaks become line feeds. -/
def lineBreak (cursor : Cursor) : List Char × Cursor :=
  match cursor.rest with
  | '\r' :: '\n' :: _ => (['\n'], cursor.skip 2)
  | character :: _ =>
      if character = '\u2028' ∨ character = '\u2029' then ([character], cursor.advance)
      else if isBreak character then (['\n'], cursor.advance)
      else ([], cursor)
  | [] => ([], cursor)

/-- Whether three characters from here on, and the end of a word after them, are the
given mark. -/
def atMark (mark : List Char) (cursor : Cursor) : Bool :=
  mark.isPrefixOf cursor.rest && endsWord (cursor.ahead? 3)

/-- Whether a line that starts or ends a document is here. -/
def atDocumentMark (cursor : Cursor) : Bool :=
  cursor.atMark ['-', '-', '-'] || cursor.atMark ['.', '.', '.']

/-- The place after spaces and a comment. -/
def skipComment (cursor : Cursor) : Cursor :=
  let cursor := cursor.skipWhile (· = ' ')
  if cursor.next? = some '#' then cursor.skipWhile fun character => !isBreak character
  else cursor

end Cursor

end Yaml
end Snippets
