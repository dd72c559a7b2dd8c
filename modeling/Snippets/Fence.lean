import Snippets.Block
import Snippets.Language
import Snippets.Text.Word

/-!
# Fenced blocks

A line that starts with three backticks is a fence.  A fence opens a block that
runs to the next fence, whatever that one looks like.  The block can be run when
the opening fence carries a language tag directly after its backticks, or
nothing but blank characters, which stands for a shell script.  Any other
opening fence still takes its closing fence with it.
-/

namespace Snippets
namespace Fence

/-- The characters that start a fence. -/
def mark : List Char := ['\x60', '\x60', '\x60']

/-- The rest of a fence after its backticks. -/
def info? (text : String) : Option (List Char) :=
  if mark.isPrefixOf text.toList then some (text.toList.drop mark.length) else none

/-- Whether a text starts as a fence does. -/
def isFence (text : String) : Bool :=
  (info? text).isSome

/-- The language that an opening fence asks for. -/
def openingTag? (text : String) : Option String :=
  (info? text).bind fun info =>
    let word := info.takeWhile Text.isWord
    if word ≠ [] then some (Text.lowercase (String.ofList word))
    else if info.all Text.isBlank then some Language.shellscript
    else none

/-- The block between an opening fence on line `anchor` and the closing fence
after the given lines, if it can be run. -/
def block? (isSupported : String → Bool) (anchor : Nat) (opening : Line)
    (lines : List Line) : Option Block :=
  (openingTag? opening.text).bind fun tag =>
    let language := Language.resolve tag
    if lines ≠ [] ∧ isSupported language then
      some {
        start := anchor + 1
        stop := anchor + lines.length
        language := language
        code := Document.textOf lines
        anchor := anchor }
    else none

/-- Where a scan for fences stands. -/
inductive Scan where
  /-- Between two blocks. -/
  | outside
  /-- Inside a block: its opening line, the line itself, and the lines since, in
  reverse. -/
  | inside (anchor : Nat) (opening : Line) (reversed : List Line)

/-- The blocks found from line `index` on, after those already found, which are
in reverse. -/
def scan (isSupported : String → Bool) (index : Nat) (state : Scan) (found : List Block) :
    List Line → List Block
  | [] => found.reverse
  | line :: rest =>
      match state with
      | .outside =>
          if isFence line.text then
            scan isSupported (index + 1) (.inside index line []) found rest
          else scan isSupported (index + 1) .outside found rest
      | .inside anchor opening reversed =>
          if isFence line.text then
            scan isSupported (index + 1) .outside
              ((block? isSupported anchor opening reversed.reverse).toList ++ found) rest
          else scan isSupported (index + 1) (.inside anchor opening (line :: reversed)) found rest

/-- The fenced blocks of some lines in a language that is supported, in order.
A block without a closing fence is none. -/
def blocks (isSupported : String → Bool) (lines : List Line) : List Block :=
  scan isSupported 0 .outside [] lines

end Fence
end Snippets
