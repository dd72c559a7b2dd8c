import Snippets.Document

/-!
# Blocks

A block is a run of consecutive lines that is run as one program.  Its anchor is
the line that opens it: the opening fence of a fenced block, the first line of
any other.
-/

namespace Snippets

/-- A runnable span of a document. -/
structure Block where
  /-- The first line of the code. -/
  start : Int
  /-- The last line of the code. -/
  stop : Int
  /-- The canonical id of the language. -/
  language : String
  /-- The lines of the code with a line feed between them. -/
  code : String
  /-- The line that opens the block. -/
  anchor : Int
  deriving DecidableEq, Repr

namespace Block

/-- The number of lines of code. -/
def lineCount (block : Block) : Int :=
  block.stop - block.start + 1

/-- Whether a line lies between the anchor and the last line of code. -/
def contains (block : Block) (line : Int) : Bool :=
  decide (block.anchor ≤ line ∧ line ≤ block.stop)

/-- Whether a block has the extent of a whole plain document. -/
def isWholeFile (block : Block) (document : Document) : Bool :=
  document.kind == .plain && block.start == 0 && block.stop == (document.lineCount : Int) - 1

/-- What running a block is called, with lines numbered from one. -/
def title (block : Block) (document : Document) : String :=
  if block.isWholeFile document then "Run Entire File"
  else if block.start = block.stop then
    "Run Block (line " ++ toString (block.start + 1) ++ ")"
  else
    "Run Block (lines " ++ toString (block.start + 1) ++ "–" ++
      toString (block.stop + 1) ++ ")"

/-- The first block that contains a line. -/
def atLine? (blocks : List Block) (line : Int) : Option Block :=
  blocks.find? fun block => block.contains line

end Block
end Snippets
