import Snippets.Terminal.Emoji
import Snippets.Terminal.Literal
import Snippets.Terminal.Style
import Snippets.Text.Word

/-!
# Markup

A text for a terminal may hold tags in brackets that start or end a style.  A backslash
before a tag takes its meaning away.  What remains of a text without styles is the text
outside its tags, with emoji in place of their names.
-/

namespace Snippets
namespace Terminal
namespace Markup

/-- A part of a marked-up text. -/
inductive Part where
  /-- Text. -/
  | text (characters : List Char)
  /-- A tag without its brackets. -/
  | tag (content : List Char)
  deriving DecidableEq, Repr

/-- Whether a character may start a tag. -/
def startsTag (character : Char) : Bool :=
  character.isLower || character = '#' || character = '/' || character = '@'

/-- The rest of a tag up to its bracket and what follows it, after the characters passed
over, which are in reverse.  No bracket is opened within a tag. -/
def tagRest? (passed : List Char) : List Char → Option (List Char × List Char)
  | [] => none
  | ']' :: rest => some (passed.reverse, rest)
  | '[' :: _ => none
  | character :: rest => tagRest? (character :: passed) rest

/-- The tag at the start of a text and what follows it. -/
def tag? : List Char → Option (List Char × List Char)
  | '[' :: character :: rest =>
      if startsTag character then tagRest? [character] rest else none
  | _ => none

/-- Puts characters before the text of the first part. -/
def addText (characters : List Char) : List Part → List Part
  | .text rest :: parts => .text (characters ++ rest) :: parts
  | parts => .text characters :: parts

/-- The parts of a text.  Two backslashes before a tag stand for one, and a backslash that
is left over makes a text of the tag. -/
def partsFrom : Nat → List Char → List Part
  | 0, _ => []
  | _, [] => []
  | fuel + 1, character :: rest =>
      let text := character :: rest
      let backslashes := (text.takeWhile (· = '\\')).length
      match tag? (text.drop backslashes) with
      | none => addText [character] (partsFrom fuel rest)
      | some (content, after) =>
          let escapes := .text (List.replicate (backslashes / 2) '\\')
          if backslashes % 2 = 1 then
            escapes :: .text ('[' :: content ++ [']']) :: .text [] :: partsFrom fuel after
          else escapes :: .tag content :: partsFrom fuel after

/-- The parts of a text. -/
def parts (text : List Char) : List Part :=
  partsFrom (text.length + 1) text

/-- A text without the backslashes before brackets. -/
def unescape : List Char → List Char
  | '\\' :: '[' :: rest => '[' :: unescape rest
  | character :: rest => character :: unescape rest
  | [] => []

/-- The control characters that a terminal is not sent. -/
def isDropped (character : Char) : Bool :=
  [7, 8, 11, 12, 13].contains character.toNat

/-- Why a terminal shows nothing for a marked-up text. -/
inductive Failure where
  /-- The end of a style has no start, or the parameters of a handler are no literal. -/
  | wrongTag
  /-- A part of a color is not a number. -/
  | unreadableColor
  deriving DecidableEq, Repr

/-- The normal form of the name of a style. -/
def normalName (name : List Char) : Except Failure String :=
  (Style.normal (String.ofList name)).mapError fun _ => .unreadableColor

/-- A style that a tag has started. -/
structure Opened where
  /-- The normal form of its name. -/
  name : String
  /-- What follows the equals sign, if there is one. -/
  parameters : Option (List Char)
  deriving DecidableEq, Repr

namespace Opened

/-- Whether a character may be part of the name of a handler. -/
def isNamePart (character : Char) : Bool :=
  character = '.' || Text.isWord character

/-- The literal in the parameters of a handler.  After the name of a function it is what
stands in parentheses, and an empty tuple where there are none. -/
def literal (parameters : List Char) : List Char :=
  let name := parameters.takeWhile isNamePart
  match parameters.drop name.length with
  | [] => "()".toList
  | '(' :: rest =>
      if rest.getLast? = some ')' ∧ ¬rest.contains '\n' then '(' :: rest else parameters
  | _ => parameters

/-- Whether a style can be ended.  The parameters of a handler have to be a literal. -/
def canEnd (opened : Opened) : Bool :=
  if opened.name.toList.head? = some '@' then
    match opened.parameters with
    | none => true
    | some parameters => parameters = [] || Literal.isLiteral (literal (Text.stripList parameters))
  else true

/-- Whether the name and the parameters of a style together can be read. -/
def isReadable (opened : Opened) : Bool :=
  match opened.parameters with
  | none => true
  | some parameters =>
      match Style.normal (opened.name ++ " " ++ String.ofList parameters) with
      | .ok _ => true
      | .error _ => false

end Opened

/-- Ends a style. -/
def close (opened : Opened) (styles : List Opened) : Except Failure (List Opened) :=
  if opened.canEnd then .ok styles else .error .wrongTag

/-- The styles that are open after a tag, the latest first.  The end of a style has to have a
start. -/
def apply (styles : List Opened) (content : List Char) : Except Failure (List Opened) :=
  let name := content.takeWhile (· != '=')
  match name with
  | '/' :: rest =>
      let closed := Text.stripList rest
      if closed = [] then
        match styles with
        | opened :: styles => close opened styles
        | [] => .error .wrongTag
      else do
        let closed ← normalName closed
        match styles.find? (·.name == closed) with
        | some opened => close opened (styles.eraseP (·.name == closed))
        | none => throw .wrongTag
  | _ => do
      let parameters := content.drop (name.length + 1)
      let given := if name.length < content.length then some parameters else none
      return ⟨← normalName name, given⟩ :: styles

/-- The text of parts, given the styles that are open. -/
def render (styles : List Opened) : List Part → Except Failure (List Char)
  | [] => .ok []
  | .text characters :: rest => do
      return replaceEmoji (unescape characters) ++ (← render styles rest)
  | .tag content :: rest => do
      let styles ← apply styles content
      render styles rest

/-- The style that a part starts, if it is a tag that starts one. -/
def opened? : Part → Option Opened
  | .text _ => none
  | .tag content => (apply [] content).toOption.bind List.head?

/-- The text that a terminal shows for a marked-up text. -/
def plain (text : String) : Except Failure (List Char) := do
  let parts := parts text.toList
  let characters ← render [] parts
  if !(parts.filterMap opened?).all Opened.isReadable then throw .unreadableColor
  return characters.filter fun character => !isDropped character

end Markup
end Terminal
end Snippets
