import Snippets.Yaml.Token.Block
import Snippets.Yaml.Token.Name
import Snippets.Yaml.Token.Plain
import Snippets.Yaml.Token.Quoted

/-!
# The tokens of a stream

A stream is cut into tokens from its start.  Two things depend on more than the next
character.  Indentation: a block ends before the first token that is not indented as
deeply.  Keys: a token may turn out to have been the start of a key when a colon follows
on the same line, and the token for the key is then put before it.
-/

namespace Snippets
namespace Yaml

/-- The start of what may turn out to be a key. -/
structure KeyPlace where
  /-- The number of tokens before it. -/
  position : Nat
  /-- Whether nothing but a key can be here. -/
  required : Bool
  /-- The number of characters from it on. -/
  left : Nat
  /-- Its line. -/
  line : Nat
  /-- Its column. -/
  column : Nat

/-- How far a stream has been cut into tokens. -/
structure Progress where
  /-- The place reached. -/
  cursor : Cursor
  /-- The tokens before it, the last first. -/
  tokens : List Token
  /-- The number of tokens before it. -/
  size : Nat
  /-- The columns of the blocks around it, the innermost first. -/
  indents : List Nat
  /-- Whether a key may start here. -/
  keyAllowed : Bool
  /-- The start of a possible key in the innermost collection. -/
  key : Option KeyPlace
  /-- The starts of possible keys outside the brackets and braces around the place, the
  innermost first. -/
  outerKeys : List (Option KeyPlace)

namespace Progress

/-- The greatest number of characters from the start of a key to its colon. -/
def longestKey : Nat := 1024

/-- Nothing has been read. -/
def start (characters : List Char) : Progress :=
  { cursor := Cursor.start characters, tokens := [], size := 0, indents := [], keyAllowed := true
    key := none, outerKeys := [] }

/-- Whether the place is inside brackets or braces. -/
def inFlow (progress : Progress) : Bool :=
  !progress.outerKeys.isEmpty

/-- The least column of the lines of a scalar. -/
def leastColumn (progress : Progress) : Nat :=
  match progress.indents with
  | [] => 0
  | column :: _ => column + 1

/-- Adds a token and moves on. -/
def push (progress : Progress) (token : Token) (cursor : Cursor) : Progress :=
  { progress with tokens := token :: progress.tokens, size := progress.size + 1, cursor := cursor }

/-- Puts a token before the one that has a number of tokens before it. -/
def insert (progress : Progress) (position : Nat) (token : Token) : Progress :=
  { progress with
    tokens := progress.tokens.insertIdx (progress.size - position) token
    size := progress.size + 1 }

/-- Skips spaces, comments and line breaks.  Outside brackets and braces a key may start
on a new line. -/
def skipBlank : Nat → Progress → Progress
  | 0, progress => progress
  | fuel + 1, progress =>
      match progress.cursor.skipComment.lineBreak with
      | ([], cursor) => { progress with cursor := cursor }
      | (_, cursor) =>
          skipBlank fuel
            { progress with
              cursor := cursor, keyAllowed := progress.keyAllowed || !progress.inFlow }

/-- Skips a byte order mark at the start of the stream. -/
def skipMark (progress : Progress) : Progress :=
  if progress.cursor.next? = some '\uFEFF' then
    { progress with cursor := progress.cursor.advance }
  else progress

/-- Whether a key that starts at a place has to have its colon before the cursor. -/
def isStale (cursor : Cursor) (place : KeyPlace) : Bool :=
  place.line != cursor.line || longestKey < place.left - cursor.left

/-- A possible start of a key, unless the key would have to be over.  A required key has
to be there. -/
def refreshKey (cursor : Cursor) : Option KeyPlace → Except Failure (Option KeyPlace)
  | none => .ok none
  | some place =>
      if isStale cursor place then (if place.required then .error .malformed else .ok none)
      else .ok (some place)

/-- Forgets the possible starts of keys that would have to be over. -/
def refreshKeys (progress : Progress) : Except Failure Progress := do
  let key ← refreshKey progress.cursor progress.key
  let outerKeys ← progress.outerKeys.mapM (refreshKey progress.cursor)
  return { progress with key := key, outerKeys := outerKeys }

/-- Forgets the possible start of a key in the innermost collection. -/
def dropKey (progress : Progress) : Except Failure Progress :=
  match progress.key with
  | some place => if place.required then .error .malformed else .ok { progress with key := none }
  | none => .ok progress

/-- Remembers that a key may start with the next token. -/
def markKey (progress : Progress) : Except Failure Progress := do
  if progress.keyAllowed then
    let progress ← progress.dropKey
    let cursor := progress.cursor
    let required := !progress.inFlow && progress.indents.head? == some cursor.column
    return { progress with
      key := some ⟨progress.size, required, cursor.left, cursor.line, cursor.column⟩ }
  else return progress

/-- Ends the blocks that are indented more deeply than the given number of columns. -/
def closeBlocks (count : Nat) (progress : Progress) : Progress :=
  let closed := progress.indents.takeWhile (count ≤ ·)
  { progress with
    indents := progress.indents.drop closed.length
    tokens := closed.foldl (fun tokens _ => .blockEnd :: tokens) progress.tokens
    size := progress.size + closed.length }

/-- Ends the blocks that are indented more deeply than the place. -/
def closeDeeper (progress : Progress) : Progress :=
  if progress.inFlow then progress else progress.closeBlocks (progress.cursor.column + 1)

/-- Whether a block that starts at a column is inside the innermost one. -/
def isDeeper (progress : Progress) (column : Nat) : Bool :=
  match progress.indents with
  | [] => true
  | innermost :: _ => innermost < column

/-- Starts a block at the place unless it goes on there. -/
def openBlock (progress : Progress) (token : Token) : Progress :=
  let column := progress.cursor.column
  if progress.isDeeper column then
    { progress with
      indents := column :: progress.indents
      tokens := token :: progress.tokens
      size := progress.size + 1 }
  else progress

/-- Ends all blocks before a mark at the start of a line. -/
def closeAll (progress : Progress) : Except Failure Progress := do
  let progress ← (progress.closeBlocks 0).dropKey
  return { progress with keyAllowed := false }

/-- Reads a directive. -/
def directive (progress : Progress) : Except Failure Progress := do
  let progress ← progress.closeAll
  let (token, cursor) ← Directive.read progress.cursor
  return progress.push token cursor

/-- Reads the mark at the start or at the end of a document. -/
def documentMark (token : Token) (progress : Progress) : Except Failure Progress := do
  let progress ← progress.closeAll
  return progress.push token (progress.cursor.skip 3)

/-- Reads an opening bracket or brace. -/
def openFlow (token : Token) (progress : Progress) : Except Failure Progress := do
  let progress ← progress.markKey
  let progress := progress.push token progress.cursor.advance
  return { progress with
    keyAllowed := true, key := none, outerKeys := progress.key :: progress.outerKeys }

/-- Reads a closing bracket or brace. -/
def closeFlow (token : Token) (progress : Progress) : Except Failure Progress := do
  let progress ← progress.dropKey
  match progress.outerKeys with
  | [] => throw .malformed
  | key :: outerKeys =>
      let progress := progress.push token progress.cursor.advance
      return { progress with keyAllowed := false, key := key, outerKeys := outerKeys }

/-- Reads a comma. -/
def flowEntry (progress : Progress) : Except Failure Progress := do
  let progress ← progress.dropKey
  let progress := progress.push .flowEntry progress.cursor.advance
  return { progress with keyAllowed := true }

/-- Starts a block at the place, where one has to be allowed, unless the place is inside
brackets or braces. -/
def requireBlock (token : Token) (progress : Progress) : Except Failure Progress :=
  if progress.inFlow then .ok progress
  else if progress.keyAllowed then .ok (progress.openBlock token)
  else .error .malformed

/-- Reads a dash before an item. -/
def blockEntry (progress : Progress) : Except Failure Progress := do
  let progress ← progress.requireBlock .blockSequenceStart
  let progress ← progress.dropKey
  let progress := progress.push .blockEntry progress.cursor.advance
  return { progress with keyAllowed := true }

/-- Reads a question mark before a key. -/
def explicitKey (progress : Progress) : Except Failure Progress := do
  let progress ← progress.requireBlock .blockMappingStart
  let progress ← progress.dropKey
  let progress := progress.push .key progress.cursor.advance
  return { progress with keyAllowed := !progress.inFlow }

/-- Makes the token at a place the start of a key. -/
def insertKey (place : KeyPlace) (progress : Progress) : Progress :=
  let progress := progress.insert place.position .key
  if !progress.inFlow && progress.isDeeper place.column then
    { progress.insert place.position .blockMappingStart with
      indents := place.column :: progress.indents }
  else progress

/-- Reads a colon before a value. -/
def value (progress : Progress) : Except Failure Progress := do
  match progress.key with
  | some place =>
      let progress := { progress with key := none, keyAllowed := false }.insertKey place
      return progress.push .value progress.cursor.advance
  | none =>
      let progress ← progress.requireBlock .blockMappingStart
      let progress := progress.push .value progress.cursor.advance
      return { progress with keyAllowed := !progress.inFlow }

/-- Reads a token that may be the start of a key. -/
def simple (read : Cursor → Except Failure (Token × Cursor)) (progress : Progress) :
    Except Failure Progress := do
  let progress ← progress.markKey
  let (token, cursor) ← read progress.cursor
  return { progress.push token cursor with keyAllowed := false }

/-- Reads a reference to a named node, or a name for a node. -/
def name (make : String → Token) (cursor : Cursor) : Except Failure (Token × Cursor) := do
  let (name, cursor) ← Name.read cursor
  return (make name, cursor)

/-- Reads a quoted scalar. -/
def quoted (cursor : Cursor) : Except Failure (Token × Cursor) := do
  let (text, cursor) ← Quoted.read cursor
  return (.scalar text false, cursor)

/-- Reads a block scalar. -/
def blockScalar (progress : Progress) : Except Failure Progress := do
  let progress ← progress.dropKey
  let (text, cursor) ← Block.read progress.leastColumn progress.cursor
  let pushed := progress.push (.scalar (.whole (String.ofList text)) false) cursor
  return { pushed with keyAllowed := true }

/-- Reads a plain scalar. -/
def plain (progress : Progress) : Except Failure Progress := do
  let progress ← progress.markKey
  let (text, cursor, newLine) :=
    Plain.read progress.inFlow progress.leastColumn progress.cursor
  let token := Token.scalar (.whole (String.ofList text)) true
  return { progress.push token cursor with keyAllowed := newLine }

/-- Whether a mark of one character is a token of its own here: inside brackets and
braces, or before a space. -/
def standsAlone (progress : Progress) : Bool :=
  progress.inFlow || endsWord (progress.cursor.ahead? 1)

/-- Reads the token that starts with the next character. -/
def token (next : Char) (progress : Progress) : Except Failure Progress :=
  let cursor := progress.cursor
  let atStart := cursor.column = 0
  if next = '%' ∧ atStart then progress.directive
  else if atStart ∧ cursor.atMark ['-', '-', '-'] then progress.documentMark .documentStart
  else if atStart ∧ cursor.atMark ['.', '.', '.'] then progress.documentMark .documentEnd
  else if next = '[' then progress.openFlow .flowSequenceStart
  else if next = '\x7b' then progress.openFlow .flowMappingStart
  else if next = ']' then progress.closeFlow .flowSequenceEnd
  else if next = '\x7d' then progress.closeFlow .flowMappingEnd
  else if next = ',' then progress.flowEntry
  else if next = '-' ∧ endsWord (cursor.ahead? 1) then progress.blockEntry
  else if next = '?' ∧ progress.standsAlone then progress.explicitKey
  else if next = ':' ∧ progress.standsAlone then progress.value
  else if next = '*' then progress.simple (name .alias)
  else if next = '&' then progress.simple (name .anchor)
  else if next = '!' then progress.simple Tag.read
  else if (next = '|' ∨ next = '>') ∧ ¬progress.inFlow then progress.blockScalar
  else if next = '\'' ∨ next = '"' then progress.simple quoted
  else if Plain.starts progress.inFlow cursor then progress.plain
  else .error .malformed

/-- The number of tokens that are certain, since no key can be put before them any more. -/
def certain (progress : Progress) : Nat :=
  (progress.key :: progress.outerKeys).foldl
    (fun least key => match key with
      | some place => min least place.position
      | none => least)
    progress.size

/-- The tokens that are certain, and the reason why there are no more.  The last token
comes first. -/
def fail (failure : Failure) (progress : Progress) : List Token :=
  .failure failure :: progress.tokens.drop (progress.size - progress.certain)

/-- Reads one more token, or reaches the end of the stream. -/
def step (progress : Progress) : Except Failure (Progress × Bool) := do
  let progress ← (progress.skipBlank (progress.cursor.left + 1)).refreshKeys
  let progress := progress.closeDeeper
  match progress.cursor.next? with
  | none => return (← progress.closeAll, false)
  | some next => return (← progress.token next, true)

/-- Reads tokens to the end of the stream, or to the place from which nothing more can be
read.  The last token comes first. -/
def finish : Nat → Progress → List Token
  | 0, progress => progress.tokens
  | fuel + 1, progress =>
      match progress.refreshKeys with
      | .error failure => progress.fail failure
      | .ok progress =>
          match progress.step with
          | .error failure => progress.fail failure
          | .ok (progress, true) => finish fuel progress
          | .ok (progress, false) => progress.tokens

end Progress

namespace Token

/-- The tokens of a stream. -/
def ofCharacters (characters : List Char) : List Token :=
  let progress := (Progress.start characters).skipMark
  (progress.finish (characters.length + 1)).reverse

end Token
end Yaml
end Snippets
