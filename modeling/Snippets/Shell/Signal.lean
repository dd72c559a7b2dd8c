import Snippets.Shell.Octets

/-!
# Signals

A signal has a number and a name.  Most signals end the process that they are sent to.
-/

namespace Snippets
namespace Shell
namespace Signal

/-- The names of the signals that have one of their own. -/
def names : List (Nat × String) :=
  [(1, "HUP"), (2, "INT"), (3, "QUIT"), (4, "ILL"), (5, "TRAP"), (6, "ABRT"), (7, "BUS"),
   (8, "FPE"), (9, "KILL"), (10, "USR1"), (11, "SEGV"), (12, "USR2"), (13, "PIPE"),
   (14, "ALRM"), (15, "TERM"), (16, "STKFLT"), (17, "CHLD"), (18, "CONT"), (19, "STOP"),
   (20, "TSTP"), (21, "TTIN"), (22, "TTOU"), (23, "URG"), (24, "XCPU"), (25, "XFSZ"),
   (26, "VTALRM"), (27, "PROF"), (28, "WINCH"), (29, "IO"), (30, "PWR"), (31, "SYS")]

/-- The greatest number of a signal. -/
def greatest : Nat := 64

/-- The name of a signal, counted from either end where it has none of its own. -/
def name? (number : Nat) : Option String :=
  match names.lookup number with
  | some name => some name
  | none =>
      if number = 34 then some "RTMIN"
      else if number = greatest then some "RTMAX"
      else if 34 < number ∧ number < 50 then some ("RTMIN+" ++ toString (number - 34))
      else if 50 ≤ number ∧ number < greatest then
        some ("RTMAX-" ++ toString (greatest - number))
      else none

/-- All signals and their names. -/
def all : List (Nat × String) :=
  (List.range (greatest + 1)).filterMap fun number : Nat =>
    (name? number).map fun name => (number, name)

/-- The number of a signal by its name in capitals. -/
def ofName? (name : List Char) : Option Nat :=
  (all.find? fun entry => entry.2.toList = name).map Prod.fst

/-- The number of a signal, which is given as it is or by a name.  A name may start in a way
that all names share, where that is allowed. -/
def ofText? (allowsStart : Bool) (text : List Char) : Option Nat :=
  match toNat? text with
  | some number => if number ≤ greatest then some number else none
  | none =>
      let capitals := text.map Char.toUpper
      let isLong := allowsStart && "SIG".toList.isPrefixOf capitals
      let name := if isLong then capitals.drop 3 else capitals
      if name = "EXIT".toList then some 0 else ofName? name

/-- Whether a signal ends a process that does not expect it. -/
def ends (number : Nat) : Bool :=
  !([0, 17, 18, 19, 20, 21, 22, 23, 28].contains number)

/-- What is said of a process that a signal has ended. -/
def description (number : Nat) : String :=
  match number with
  | 1 => "Hangup"
  | 3 => "Quit"
  | 4 => "Illegal instruction"
  | 5 => "Trace/breakpoint trap"
  | 6 => "Aborted"
  | 7 => "Bus error"
  | 8 => "Floating point exception"
  | 9 => "Killed"
  | 10 => "User defined signal 1"
  | 11 => "Segmentation fault"
  | 12 => "User defined signal 2"
  | 14 => "Alarm clock"
  | 15 => "Terminated"
  | _ => ""

/-- A table of all signals, five in a line. -/
def table : List Char :=
  let cell := fun entry : Nat × String =>
    let number := ofNat entry.1
    List.replicate (2 - number.length) ' ' ++ number ++ ") SIG".toList ++ entry.2.toList
  let rec rows : Nat → List (Nat × String) → List Char
    | 0, _ => []
    | _, [] => []
    | fuel + 1, entries =>
        let row := ['\t'].intercalate ((entries.take 5).map cell)
        -- A row that is not full ends as if another cell followed.
        let ending := if entries.length < 5 then ['\t', '\n'] else ['\n']
        row ++ ending ++ rows fuel (entries.drop 5)
  rows greatest all

end Signal
end Shell
end Snippets
