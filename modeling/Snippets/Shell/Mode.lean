import Snippets.Shell.Octets

/-!
# Rights

The rights to a file are bits: reading, writing and running for the owner, the group and
all others, and three more above them.  A change of rights is a number, or a row of
clauses that say whose rights are given, taken or set.
-/

namespace Snippets
namespace Shell
namespace Mode

/-- All bits of rights. -/
def all : Nat := 0o7777

/-- The bits of the first number without those of the second one. -/
def without (bits taken : Nat) : Nat :=
  bits &&& (all ^^^ (taken &&& all))

/-- What an action of a clause gives. -/
inductive Rights where
  /-- Bits, and running for all where somebody may run the file or it is a directory. -/
  | bits (value : Nat) (runsIfSome : Bool)
  /-- The rights that somebody has. -/
  | copy (whose : Nat)
  deriving DecidableEq, Repr

/-- What a clause does with the rights of somebody. -/
structure Action where
  /-- Whether rights are given, taken or set. -/
  sign : Char
  /-- Whose rights, as bits; nobody stands for all of them, as far as new files have them. -/
  whose : Nat
  /-- The rights. -/
  rights : Rights
  deriving DecidableEq, Repr

/-- A change of rights. -/
inductive Change where
  /-- The rights become those of a number, which names all bits or not those above. -/
  | number (value : Nat) (isWhole : Bool)
  /-- Actions happen one after the other. -/
  | steps (actions : List Action)
  deriving DecidableEq, Repr

/-- Whose rights a letter stands for. -/
def whose? (letter : Char) : Option Nat :=
  match letter with
  | 'u' => some 0o4700
  | 'g' => some 0o2070
  | 'o' => some 0o1007
  | 'a' => some all
  | _ => none

/-- The rights that a letter stands for. -/
def bitsOf? (letter : Char) : Option Nat :=
  match letter with
  | 'r' => some 0o444
  | 'w' => some 0o222
  | 'x' => some 0o111
  | 's' => some 0o6000
  | 't' => some 0o1000
  | _ => none

/-- The value of octal digits. -/
def ofOctal (digits : List Char) : Nat :=
  digits.foldl (fun value digit => value * 8 + (digit.toNat - 48)) 0

/-- Whether a character is an octal digit. -/
def isOctal (character : Char) : Bool :=
  '0' ≤ character && character ≤ '7'

/-- The rights at the start of a text, and what follows them. -/
def rightsAt (text : List Char) : Rights × List Char :=
  match text with
  | letter :: rest =>
      if ['u', 'g', 'o'].contains letter then (.copy ((whose? letter).getD 0 &&& 0o777), rest)
      else
        let letters := text.takeWhile fun letter => letter = 'X' || (bitsOf? letter).isSome
        let value := letters.foldl (fun value letter => value ||| (bitsOf? letter).getD 0) 0
        (.bits value (letters.contains 'X'), text.drop letters.length)
  | [] => (.bits 0 false, [])

/-- The actions of a clause, after the letters that say whose rights are meant. -/
def actionsFrom (whose : Nat) : Nat → List Char → Option (List Action)
  | 0, _ => none
  | _, [] => some []
  | fuel + 1, sign :: rest =>
      if ['+', '-', '='].contains sign then
        let digits := rest.takeWhile isOctal
        let (rights, after) :=
          if digits.isEmpty then rightsAt rest
          else (.bits (ofOctal digits) false, rest.drop digits.length)
        (actionsFrom whose fuel after).map (⟨sign, whose, rights⟩ :: ·)
      else none

/-- The actions of a clause. -/
def clause? (text : List Char) : Option (List Action) :=
  let letters := text.takeWhile fun letter => (whose? letter).isSome
  let whose := letters.foldl (fun bits letter => bits ||| (whose? letter).getD 0) 0
  match text.drop letters.length with
  | [] => none
  | rest => actionsFrom whose (rest.length + 1) rest

/-- The change that a text stands for. -/
def Change.ofText? (text : List Char) : Option Change :=
  if text ≠ [] ∧ text.all isOctal then
    let value := ofOctal text
    if value ≤ all then some (.number value (5 ≤ text.length)) else none
  else
    ((splitAt ',' text).mapM clause?).map fun found => .steps found.flatten

/-- Everybody's rights, where one of some bits is set. -/
def spread (bits : Nat) : Nat :=
  (if bits &&& 0o444 ≠ 0 then 0o444 else 0) ||| (if bits &&& 0o222 ≠ 0 then 0o222 else 0) |||
    (if bits &&& 0o111 ≠ 0 then 0o111 else 0)

/-- The rights after an action. -/
def Action.apply (mask : Nat) (isDirectory : Bool) (action : Action) (mode : Nat) : Nat :=
  let value := match action.rights with
    | .copy whose => spread (mode &&& whose)
    | .bits value runsIfSome =>
        if runsIfSome ∧ (isDirectory ∨ mode &&& 0o111 ≠ 0) then value ||| 0o111 else value
  let mentioned := match action.rights with
    | .bits value _ => if action.whose = 0 then value else action.whose &&& value
    | .copy _ => 0
  let kept := if isDirectory then without 0o6000 mentioned else 0
  let masked := if action.whose = 0 then without value mask else value &&& action.whose
  let value := without masked kept
  match action.sign with
  | '+' => mode ||| value
  | '-' => without mode value
  | _ =>
      let preserved := (if action.whose = 0 then 0 else without all action.whose) ||| kept
      (mode &&& preserved) ||| value

/-- The rights after a change. -/
def Change.apply (mask : Nat) (isDirectory : Bool) (mode : Nat) : Change → Nat
  | .number value isWhole =>
      if isDirectory ∧ !isWhole then value ||| (mode &&& 0o6000) else value
  | .steps actions =>
      actions.foldl (fun mode action => action.apply mask isDirectory mode) mode

/-- The letters of the rights. -/
def letters (mode : Nat) : List Char :=
  let has := fun bit : Nat => mode &&& bit != 0
  let triple := fun (bit : Nat) (extra : Nat) (small capital : Char) =>
    [if has (bit * 4) then 'r' else '-', if has (bit * 2) then 'w' else '-',
     match has bit, has extra with
     | true, true => small
     | false, true => capital
     | true, false => 'x'
     | false, false => '-']
  triple 0o100 0o4000 's' 'S' ++ triple 0o010 0o2000 's' 'S' ++ triple 0o001 0o1000 't' 'T'

/-- The octal digits of the rights, at least as many as given. -/
def octal (width mode : Nat) : List Char :=
  let digits := Nat.toDigits 8 mode
  List.replicate (width - digits.length) '0' ++ digits

/-- The rights that are left by a mask, as letters for each. -/
def maskLetters (mask : Nat) : List Char :=
  let allowed := without 0o777 mask
  let part := fun (name : Char) (bit : Nat) =>
    name :: '=' :: ((if allowed &&& (bit * 4) ≠ 0 then ['r'] else []) ++
      (if allowed &&& (bit * 2) ≠ 0 then ['w'] else []) ++
      (if allowed &&& bit ≠ 0 then ['x'] else []))
  part 'u' 0o100 ++ ',' :: part 'g' 0o010 ++ ',' :: part 'o' 0o001

end Mode
end Shell
end Snippets
