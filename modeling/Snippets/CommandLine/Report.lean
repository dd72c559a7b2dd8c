import Snippets.Config.Source
import Snippets.Execution.Host
import Snippets.Terminal.Markup
import Snippets.Terminal.Wrap

/-!
# How a command ends

A command prints lines and ends with an exit code, unless a failure ends it that it does
not expect.  What it says is a message: a marked-up text after a word that says of what kind
it is, wrapped at the width of the terminal.
-/

namespace Snippets
namespace CommandLine

/-- What a message is about. -/
inductive MessageKind where
  /-- Something that went wrong. -/
  | error
  /-- Something to know. -/
  | info
  /-- Something that went well. -/
  | success
  /-- Something to look at. -/
  | warning
  deriving DecidableEq, Repr

/-- The marked-up word before a message. -/
def MessageKind.label : MessageKind → String
  | error => "[red]Error:[/red]"
  | info => "[blue]Info:[/blue]"
  | success => "[green]✓[/green]"
  | warning => "[yellow]Warning:[/yellow]"

/-- A message. -/
structure Message where
  /-- What it is about. -/
  kind : MessageKind
  /-- The marked-up text. -/
  text : String
  deriving DecidableEq, Repr

namespace Message

/-- The number of cells of a line of the terminal. -/
def terminalWidth : Nat := 200

/-- A message as it is handed to the terminal. -/
def markup (message : Message) : String :=
  message.kind.label ++ " " ++ message.text

/-- The lines that the terminal shows for a message. -/
def lines (message : Message) : Except Terminal.Markup.Failure (List String) := do
  let characters ← Terminal.Markup.plain message.markup
  return (Terminal.wrap terminalWidth .natural .fold true characters).map String.ofList

/-- The lines for several messages. -/
def allLines (messages : List Message) : Except Terminal.Markup.Failure (List String) := do
  return (← messages.mapM lines).flatten

end Message

/-- A failure that a command does not expect. -/
inductive Escape where
  /-- The markup of a text to print is wrong. -/
  | markup (failure : Terminal.Markup.Failure)
  /-- A path holds a character that no path may hold. -/
  | invalidPath
  /-- The state of a path cannot be told. -/
  | path (failure : PathFailure)
  /-- The configuration cannot be read for a reason that has no message. -/
  | config (failure : Config.LoadFailure)
  /-- The host failed. -/
  | host (failure : HostFailure)
  deriving DecidableEq, Repr

/-- How a command ends. -/
inductive Ending where
  /-- With an exit code. -/
  | exit (code : Int)
  /-- With a failure that it does not expect. -/
  | escaped (failure : Escape)
  deriving DecidableEq, Repr

/-- What a command has printed, and how it ended. -/
structure Report where
  /-- The lines that were printed. -/
  lines : List String
  /-- How the command ended. -/
  ending : Ending
  deriving DecidableEq, Repr

namespace Report

/-- The exit code of success. -/
def success : Int := 0

/-- The exit code of a failure. -/
def failure : Int := 1

/-- The exit code of a wrong use or a wrong configuration. -/
def wrongUse : Int := 2

/-- The exit code of a run that the user has interrupted. -/
def interrupted : Int := 130

/-- A command that prints messages and ends with an exit code. -/
def saying (messages : List Message) (code : Int) : Report :=
  match Message.allLines messages with
  | .ok lines => ⟨lines, .exit code⟩
  | .error failure => ⟨[], .escaped (.markup failure)⟩

/-- A command that fails without a word. -/
def escaping (failure : Escape) : Report :=
  ⟨[], .escaped failure⟩

/-- A command that has printed lines before. -/
def after (lines : List String) (report : Report) : Report :=
  { report with lines := lines ++ report.lines }

end Report

end CommandLine
end Snippets
