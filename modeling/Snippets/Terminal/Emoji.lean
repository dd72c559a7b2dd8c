import Snippets.Number.Reading
import Snippets.Terminal.EmojiTable
import Snippets.Text.Blank
import Snippets.Text.Lowercase

/-!
# Emoji by name

A name between colons stands for an emoji.  The name may end in a dash and the word for a
presentation; a name that is not known stays as it is.
-/

namespace Snippets
namespace Terminal

/-- The characters that a row entry stands for. -/
def charactersOfCodes (codes : String) : List Char :=
  (codes.splitOn "-").filterMap fun digits =>
    (Number.ofDigits? 16 digits.toList).map Char.ofNat

/-- The characters of the emoji of a name in lower case. -/
def emoji? (name : String) : Option (List Char) :=
  emojiRows.findSome? fun row =>
    (row.splitOn " ").findSome? fun entry =>
      match entry.splitOn ":" with
      | [key, codes] => if key = name then some (charactersOfCodes codes) else none
      | _ => none

/-- The words for presentations and the characters that choose them. -/
def presentations : List (String × Char) :=
  [("-emoji:", '\uFE0F'), ("-text:", '\uFE0E')]

/-- A name up to the next colon, after the characters passed over, which are in reverse: the
name, the presentation, what was read, and what follows.  A name has no blank character. -/
def emojiName? (passed : List Char) :
    List Char → Option (List Char × List Char × List Char × List Char)
  | [] => none
  | ':' :: rest => some (passed.reverse, [], passed.reverse ++ [':'], rest)
  | character :: rest =>
      let found := presentations.find? fun entry =>
        entry.1.toList.isPrefixOf (character :: rest)
      match found with
      | some (word, presentation) =>
          some (passed.reverse, [presentation], passed.reverse ++ word.toList,
            (character :: rest).drop word.length)
      | none =>
          if Text.isBlank character then none else emojiName? (character :: passed) rest

/-- A text in which names between colons are replaced by emoji. -/
def replaceEmojiFrom : Nat → List Char → List Char
  | 0, text => text
  | _, [] => []
  | fuel + 1, ':' :: rest =>
      match emojiName? [] rest with
      | none => ':' :: replaceEmojiFrom fuel rest
      | some (name, presentation, read, after) =>
          match emoji? (Text.lowercase (String.ofList name)) with
          | some characters => characters ++ presentation ++ replaceEmojiFrom fuel after
          | none => ':' :: read ++ replaceEmojiFrom fuel after
  | fuel + 1, character :: rest => character :: replaceEmojiFrom fuel rest

/-- A text in which names between colons are replaced by emoji. -/
def replaceEmoji (text : List Char) : List Char :=
  replaceEmojiFrom (text.length + 1) text

end Terminal
end Snippets
