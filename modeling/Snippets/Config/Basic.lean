import Snippets.Registry

/-!
# Configurations

What a user may choose: whether blocks are listed, whether one executor is shared,
how blocks are run and for how long, and runners of their own.
-/

namespace Snippets

/-- How blocks are run. -/
inductive RunMode where
  /-- Each block in a process of its own, from a temporary file. -/
  | file
  /-- All blocks in one shell that stays open. -/
  | shell
  deriving DecidableEq, Repr

namespace RunMode

/-- The name of a mode. -/
def name : RunMode → String
  | file => "file"
  | shell => "shell"

/-- The mode of a name. -/
def ofName? (name : String) : Option RunMode :=
  [file, shell].find? fun mode => mode.name == name

end RunMode

/-- The choices of a user. -/
structure Config where
  /-- Whether blocks are listed. -/
  showAffordance : Bool := true
  /-- Whether one executor is shared between runs. -/
  reuseExecutor : Bool := true
  /-- How blocks are run. -/
  mode : RunMode := .file
  /-- The seconds after which a run is given up, if there is a limit. -/
  timeout : Option Nat := none
  /-- Runners that take the place of the built-in ones. -/
  overrides : Registry := .empty
  deriving DecidableEq

namespace Config

/-- The runners in effect. -/
def registry (config : Config) : Registry :=
  Registry.withOverrides config.overrides.entries

end Config
end Snippets
