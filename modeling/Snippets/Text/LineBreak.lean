/-!
# Line breaks

A line ends at a line feed, a carriage return, or a carriage return followed by
a line feed, which together are one break.  `splitLines` cuts a text at its
breaks, `joinLines` puts a line feed between lines, and `unifyBreaks` replaces
every break by a line feed.
-/

namespace Snippets
namespace Text

/-- A text cut at its breaks, read from its end: the characters of the line at
hand, the lines after it, and whether the text read so far starts with a line
feed. -/
structure SplitState where
  /-- The characters of the first line. -/
  line : List Char
  /-- The lines after it. -/
  rest : List (List Char)
  /-- Whether the text starts with a line feed. -/
  feed : Bool

namespace SplitState

/-- The empty text is one empty line. -/
def empty : SplitState :=
  ⟨[], [], false⟩

/-- Puts a character before a text.  A carriage return before a line feed adds
no further break. -/
def push (character : Char) (state : SplitState) : SplitState :=
  if character = '\n' then ⟨[], state.line :: state.rest, true⟩
  else if character = '\r' then
    if state.feed then ⟨[], state.rest, false⟩ else ⟨[], state.line :: state.rest, false⟩
  else ⟨character :: state.line, state.rest, false⟩

/-- All lines of the text. -/
def lines (state : SplitState) : List (List Char) :=
  state.line :: state.rest

end SplitState

/-- The lines of a text.  There is always one, and a break at the end is followed
by an empty line. -/
def splitLines (characters : List Char) : List (List Char) :=
  (characters.foldr SplitState.push SplitState.empty).lines

/-- Puts a line feed between consecutive texts. -/
def joinLines (lines : List String) : String :=
  String.ofList (['\n'].intercalate (lines.map String.toList))

/-- Replaces every break of a reversed text by a line feed. -/
def unifyFrom (result : List Char) : List Char → List Char
  | [] => result.reverse
  | '\r' :: '\n' :: rest => unifyFrom ('\n' :: result) rest
  | '\r' :: rest => unifyFrom ('\n' :: result) rest
  | character :: rest => unifyFrom (character :: result) rest

/-- A text in which every break is a line feed. -/
def unifyBreaks (characters : List Char) : List Char :=
  unifyFrom [] characters

/-- A text has at least one line. -/
theorem splitLines_ne_nil (characters : List Char) : splitLines characters ≠ [] := by
  simp [splitLines, SplitState.lines]

end Text
end Snippets
