/-!
# Log levels

How much is logged.  A variable of the environment that names a level counts most, then
the wish for more and then the wish for less.
-/

namespace Snippets

/-- The least severity of the messages that are logged. -/
inductive LogLevel where
  /-- All messages. -/
  | debug
  /-- Messages on what is done, and all that are more severe. -/
  | info
  /-- Warnings and errors. -/
  | warning
  /-- Errors only. -/
  | error
  deriving DecidableEq, Repr

namespace LogLevel

/-- The name of a level. -/
def name : LogLevel → String
  | debug => "DEBUG"
  | info => "INFO"
  | warning => "WARNING"
  | error => "ERROR"

/-- The variable that names a level. -/
def variableName : String := "BLOCKRUN_LOG_LEVEL"

/-- The capital letter of a letter in the name of a level.  The dotless i shares its
capital with the dotted one. -/
def capital (character : Char) : Char :=
  if character = 'ı' then 'I' else character.toUpper

/-- The level of a name in any case. -/
def ofName? (name : String) : Option LogLevel :=
  let capitals := String.ofList (name.toList.map capital)
  [debug, info, warning, error].find? fun level => level.name == capitals

/-- The level in effect. -/
def choose (setting : Option String) (verbose quiet : Bool) : LogLevel :=
  match setting.bind ofName? with
  | some level => level
  | none => if verbose then debug else if quiet then error else warning

end LogLevel
end Snippets
