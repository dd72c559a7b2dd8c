import Snippets.Block
import Snippets.Config.Basic
import Snippets.Terminal.Table

/-!
# Rows of tables

What the table of the blocks of a file and the table of the runners show, row by row.
-/

namespace Snippets
namespace CommandLine

/-- A row of the table of blocks, with lines counted from one. -/
structure BlockRow where
  /-- The number of the block. -/
  number : Nat
  /-- What running the block is called. -/
  title : String
  /-- The language. -/
  language : String
  /-- The first line of the code. -/
  first : Int
  /-- The last line of the code. -/
  last : Int
  /-- The line that opens the block. -/
  anchor : Int
  deriving DecidableEq, Repr

namespace BlockRow

/-- The row of a block of a number. -/
def ofBlock (document : Document) (number : Nat) (block : Block) : BlockRow where
  number := number
  title := block.title document
  language := block.language
  first := block.start + 1
  last := block.stop + 1
  anchor := block.anchor + 1

/-- The rows of blocks. -/
def ofBlocks (document : Document) (blocks : List Block) : List BlockRow :=
  (blocks.zipIdx 1).map fun entry => ofBlock document entry.2 entry.1

/-- The cells of a row. -/
def cells (row : BlockRow) : List String :=
  [toString row.number, row.title, row.language, toString row.first ++ "-" ++ toString row.last,
   toString row.anchor]

/-- The columns of the table. -/
def columns : List Terminal.Column :=
  [⟨"#", true, false⟩, ⟨"Action", false, false⟩, ⟨"Language", false, false⟩,
   ⟨"Lines", false, false⟩, ⟨"Anchor", true, true⟩]

end BlockRow

/-- A row of the table of runners. -/
structure RunnerRow where
  /-- The language. -/
  language : String
  /-- The runner. -/
  runner : Runner
  /-- Whether the runner is a choice of the user. -/
  isChosen : Bool
  deriving DecidableEq, Repr

namespace RunnerRow

/-- The row of the runner of a language. -/
def ofLanguage? (config : Config) (language : String) : Option RunnerRow :=
  (config.registry.get? language).map fun runner =>
    ⟨language, runner, config.overrides.contains language⟩

/-- The rows of the runners in effect. -/
def ofConfig (config : Config) : List RunnerRow :=
  config.registry.languages.filterMap (ofLanguage? config)

/-- The cells of a row. -/
def cells (row : RunnerRow) : List String :=
  [row.language, row.runner.command, row.runner.ext,
   if row.isChosen then "config" else "built-in"]

/-- The columns of the table. -/
def columns : List Terminal.Column :=
  [⟨"Language", false, false⟩, ⟨"Command", false, true⟩, ⟨"Ext", false, false⟩,
   ⟨"Source", false, false⟩]

end RunnerRow
end CommandLine
end Snippets
