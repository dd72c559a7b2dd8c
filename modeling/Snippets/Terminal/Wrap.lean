import Snippets.Terminal.Grapheme
import Snippets.Text.Blank

/-!
# Fitting text to a width

A line that is too wide is broken between words.  A word that is wider than a whole line
is folded, or cut with an ellipsis, and all lines may be filled up with spaces.
-/

namespace Snippets
namespace Terminal

/-- What is done with a word that is wider than a line. -/
inductive Overflow where
  /-- It goes on in the next line. -/
  | fold
  /-- It is cut, and an ellipsis is put at its end. -/
  | ellipsis
  deriving DecidableEq, Repr

/-- Where the text of a line is put. -/
inductive Alignment where
  /-- At the start, without spaces after it. -/
  | natural
  /-- At the start, with spaces after it. -/
  | left
  /-- At the end, with spaces before it. -/
  | right
  deriving DecidableEq, Repr

/-- The parts of a text between line feeds. -/
def splitFeeds (text : List Char) : List (List Char) :=
  text.foldr
    (fun character parts =>
      if character = '\n' then [] :: parts
      else
        match parts with
        | part :: rest => (character :: part) :: rest
        | [] => [[character]])
    [[]]

/-- The number of cells between the stops of tabs. -/
def tabSize : Nat := 8

/-- A line with spaces in place of its tabs, each up to the next stop.  The part since the
last tab is given in reverse, with the cells before it. -/
def expandTabsFrom (before : Nat) (part : List Char) : List Char → List Char
  | [] => part.reverse
  | character :: rest =>
      if character = '\t' then
        let part := (' ' :: part).reverse
        let used := before + width part
        let filling := (tabSize - used % tabSize) % tabSize
        part ++ List.replicate filling ' ' ++ expandTabsFrom (used + filling) [] rest
      else expandTabsFrom before (character :: part) rest

/-- A line with spaces in place of its tabs. -/
def expandTabs (line : List Char) : List Char :=
  expandTabsFrom 0 [] line

/-- The words of a line, each with the blank characters after it, and the first one with
those before it.  A line of blank characters has none. -/
def wordsFrom (current : List Char) (seen ended : Bool) : List Char → List (List Char)
  | [] => if seen then [current.reverse] else []
  | character :: rest =>
      if Text.isBlank character then wordsFrom (character :: current) seen seen rest
      else if ended then current.reverse :: wordsFrom [character] true false rest
      else wordsFrom (character :: current) true false rest

/-- The words of a line. -/
def wordsOf (line : List Char) : List (List Char) :=
  wordsFrom [] false false line

/-- A text without the blank characters at its end. -/
def trimEnd (text : List Char) : List Char :=
  (text.reverse.dropWhile Text.isBlank).reverse

/-- Lines while they are filled: the complete ones and the one at hand, both in reverse, and
the number of cells that count as used. -/
structure Filling where
  /-- The complete lines. -/
  complete : List (List Char)
  /-- The words of the line at hand. -/
  current : List (List Char)
  /-- The cells used in the line at hand. -/
  used : Nat

namespace Filling

/-- Starts a new line, unless nothing has been put into the text so far. -/
def breakLine (filling : Filling) : Filling :=
  if filling.complete.isEmpty && filling.current.isEmpty then filling
  else ⟨filling.current.reverse.flatten :: filling.complete, [], 0⟩

/-- Puts a word into the line at hand. -/
def put (word : List Char) (filling : Filling) : Filling :=
  { filling with current := word :: filling.current, used := filling.used + width word }

/-- Adds a word, in a new line if it does not fit. -/
def add (limit : Nat) (overflow : Overflow) (filling : Filling) (word : List Char) : Filling :=
  let cells := width (trimEnd word)
  if cells + filling.used ≤ limit then filling.put word
  else if limit < cells then
    match overflow with
    | .fold => (chop limit word).foldl (fun filling piece => filling.breakLine.put piece) filling
    | .ellipsis => filling.breakLine.put word
  else if filling.used = 0 then filling.put word
  else filling.breakLine.put word

/-- All lines. -/
def lines (filling : Filling) : List (List Char) :=
  (filling.current.reverse.flatten :: filling.complete).reverse

end Filling

/-- The lines into which a line is broken. -/
def breakLine (limit : Nat) (overflow : Overflow) (line : List Char) : List (List Char) :=
  let words := wordsOf line
  if words.isEmpty then [line]
  else (words.foldl (Filling.add limit overflow) ⟨[], [], 0⟩).lines

/-- A line without the blank characters at its end that go beyond a number of
characters. -/
def trimBeyond (limit : Nat) (line : List Char) : List Char :=
  let blanks := line.length - (trimEnd line).length
  line.take (line.length - min blanks (line.length - limit))

/-- A line cut to a width. -/
def truncate (limit : Nat) (overflow : Overflow) (line : List Char) : List Char :=
  if width line ≤ limit then line
  else
    match overflow with
    | .fold => setWidth limit line
    | .ellipsis => setWidth (limit - 1) line ++ ['…']

/-- A line with spaces around it. -/
def align (limit : Nat) (alignment : Alignment) (overflow : Overflow) (line : List Char) :
    List Char :=
  match alignment with
  | .natural => truncate limit overflow line
  | .left => setWidth limit (truncate limit overflow line)
  | .right =>
      let line := truncate limit overflow (trimEnd line)
      List.replicate (limit - width line) ' ' ++ line

/-- The lines of a text at a width. -/
def wrap (limit : Nat) (alignment : Alignment) (overflow : Overflow) (breaks : Bool)
    (text : List Char) : List (List Char) :=
  (splitFeeds text).flatMap fun line =>
    let line := expandTabs line
    let lines :=
      if breaks then (breakLine limit overflow line).map (trimBeyond limit) else [line]
    lines.map (align limit alignment overflow)

end Terminal
end Snippets
