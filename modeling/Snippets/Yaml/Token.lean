import Snippets.Text.Utf8

/-!
# The tokens of YAML

The marks, names and scalars that a stream consists of.  The indentation of blocks is
turned into marks for their starts and ends.  A scalar in double quotes may give any code
by an escape, so that its text may hold halves of surrogate pairs, which are no characters.
A stream that cannot be read has no tokens, for one of several reasons.
-/

namespace Snippets
namespace Yaml

/-- The text of a scalar. -/
inductive ScalarText where
  /-- A text of characters only. -/
  | whole (text : String)
  /-- The codes of a text with surrogates among them. -/
  | broken (codes : List Nat)
  deriving DecidableEq, Repr

namespace ScalarText

/-- The text with the given codes. -/
def ofCodes (codes : List Nat) : ScalarText :=
  if codes.any Text.isSurrogate then broken codes
  else whole (String.ofList (codes.map Char.ofNat))

/-- The text with replacement characters in place of surrogates. -/
def repaired : ScalarText → String
  | whole text => text
  | broken codes => Text.repair codes

end ScalarText

/-- Why a stream cannot be read. -/
inductive Failure where
  /-- The stream breaks the grammar, or holds a value that has no meaning. -/
  | malformed
  /-- A number, a date or a character that does not exist. -/
  | outOfRange
  /-- The code of a character is larger than any word. -/
  | oversizedCode
  /-- A number in parts of sixty has more parts than a floating-point number can hold. -/
  | tooManyParts
  /-- A truth value that is none of the words for one. -/
  | unknownWord
  /-- A number without digits. -/
  | noDigits
  /-- A moment that is not written as one. -/
  | notMoment
  /-- A mapping in the place of a moment. -/
  | mappingMoment
  /-- Collections are nested too deeply. -/
  | tooDeep
  deriving DecidableEq, Repr

/-- A token. -/
inductive Token where
  /-- A directive with the version of the language. -/
  | version (major : Nat)
  /-- A directive that gives the start of a tag a short handle. -/
  | tagHandle (handle start : String)
  /-- Any other directive. -/
  | otherDirective
  /-- The mark at the start of a document. -/
  | documentStart
  /-- The mark at the end of a document. -/
  | documentEnd
  /-- The start of an indented sequence. -/
  | blockSequenceStart
  /-- The start of an indented mapping. -/
  | blockMappingStart
  /-- The end of an indented sequence or mapping. -/
  | blockEnd
  /-- An opening square bracket. -/
  | flowSequenceStart
  /-- A closing square bracket. -/
  | flowSequenceEnd
  /-- An opening brace. -/
  | flowMappingStart
  /-- A closing brace. -/
  | flowMappingEnd
  /-- A dash before an item. -/
  | blockEntry
  /-- A comma between items. -/
  | flowEntry
  /-- The start of a key. -/
  | key
  /-- The start of a value. -/
  | value
  /-- A reference to a named node. -/
  | alias (name : String)
  /-- A name for the next node. -/
  | anchor (name : String)
  /-- A tag, split into the handle, if there is one, and the rest. -/
  | tag (handle : Option String) (rest : String)
  /-- A scalar, and whether it stands without quotes and without a block mark. -/
  | scalar (text : ScalarText) (plain : Bool)
  /-- The place from which nothing more can be read. -/
  | failure (cause : Failure)
  deriving DecidableEq, Repr

end Yaml
end Snippets
