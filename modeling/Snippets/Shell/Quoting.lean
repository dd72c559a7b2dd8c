import Snippets.Shell.Pattern
import Snippets.Shell.Variable

/-!
# Quoting

Texts written so that a shell reads them back: between quotes of one kind or another, or
with a backslash before each character that has a meaning.
-/

namespace Snippets
namespace Shell
namespace Quoting

/-- Whether a character cannot be shown as it is. -/
def isHidden (character : Char) : Bool :=
  character.toNat < 32 || character.toNat = 127 || strayCode + 0x80 ≤ character.toNat ||
    (0x80 ≤ character.toNat && character.toNat < 0xA0)

/-- Whether a text has characters that cannot be shown as they are. -/
def hasHidden (text : List Char) : Bool :=
  (characters text).any isHidden

/-- A text between single quotes, each of which inside it is put between two texts. -/
def inSingle (text : List Char) : List Char :=
  '\'' :: (text.flatMap fun octet => if octet = '\'' then "'\\''".toList else [octet]) ++ ['\'']

/-- A text between single quotes, with the single quotes inside it between double quotes. -/
def inPieces (text : List Char) : List Char :=
  let rec go : Nat → List Char → List Char
    | 0, _ => []
    | fuel + 1, rest =>
        let plain := rest.takeWhile (· != '\'')
        let after := rest.drop plain.length
        let quotes := after.takeWhile (· = '\'')
        let more := after.drop quotes.length
        '\'' :: plain ++ '\'' ::
          (if quotes.isEmpty then [] else '"' :: quotes ++ ['"']) ++
          (if more.isEmpty then [] else go fuel more)
  go (text.length + 1) text

/-- A text between double quotes. -/
def inDouble (text : List Char) : List Char :=
  '"' :: (text.flatMap fun octet =>
    if "\"$\x60\\".toList.contains octet then ['\\', octet] else [octet]) ++ ['"']

/-- The three octal digits of a number. -/
def octal (value : Nat) : List Char :=
  let digits := Nat.toDigits 8 value
  List.replicate (3 - digits.length) '0' ++ digits

/-- A text between single quotes after a dollar sign, in which characters that cannot be
shown are escaped. -/
def inDollar (text : List Char) : List Char :=
  let names : List (Char × String) :=
    [('\x1b', "\\E"), ('\x07', "\\a"), ('\x08', "\\b"), ('\t', "\\t"), ('\n', "\\n"),
     ('\x0b', "\\v"), ('\x0c', "\\f"), ('\r', "\\r"), ('\\', "\\\\"), ('\'', "\\'")]
  let shown := (characters text).flatMap fun character =>
    match names.lookup character with
    | some name => name.toList
    | none =>
        if isHidden character then
          (ofCharacters [character]).flatMap fun octet => '\\' :: octal octet.toNat
        else ofCharacters [character]
  "$'".toList ++ shown ++ ['\'']

/-- A text with a backslash before each character that has a meaning. -/
def withBackslashes (text : List Char) : List Char :=
  let active := " \t!\"$&'()*,;<>?[\\]^\x60\x7b|\x7d".toList
  (text.zipIdx.flatMap fun (octet, index) =>
    let before := if index = 0 then none else text[index - 1]?
    let isSpecial := active.contains octet || (octet = '#' && index = 0) ||
      (octet = '~' && (index = 0 || before = some '='))
    if isSpecial then ['\\', octet] else [octet])

/-- A text as a word that is as short as it can be. -/
def asWord (text : List Char) : List Char :=
  if text.isEmpty then "''".toList
  else if hasHidden text then inDollar text
  else withBackslashes text

/-- A text between single quotes, after a dollar sign where that is needed. -/
def asValue (text : List Char) : List Char :=
  if text = ['\''] then "\\'".toList
  else if hasHidden text then inDollar text
  else inSingle text

/-- A text between double quotes, or after a dollar sign where that is needed. -/
def asDeclared (text : List Char) : List Char :=
  if hasHidden text then inDollar text else inDouble text

/-- Whether a text has characters with a meaning. -/
def hasMeta (text : List Char) : Bool :=
  text.zipIdx.any fun (octet, index) =>
    let before := if index = 0 then none else text[index - 1]?
    " \t\n'\"\\|&;()<>!\x7b\x7d*[?]^$\x60".toList.contains octet ||
      (octet = '~' && (index = 0 || before = some '=' || before = some ':')) ||
      (octet = '#' && index = 0)

/-- A text as it is, or between quotes where that is needed. -/
def asNeeded (text : List Char) : List Char :=
  if hasHidden text then inDollar text
  else if hasMeta text then inSingle text
  else text

/-- A key between brackets. -/
def asKey (key : List Char) : List Char :=
  if hasHidden key then inDollar key else if hasMeta key then inDouble key else key

/-- The elements of a list of texts between parentheses. -/
def elements (content : Content) : List Char :=
  let shown := content.entries.map fun entry =>
    '[' :: (if content.isKeyed then asKey entry.1 else entry.1) ++ "]=".toList ++
      asDeclared entry.2
  let ending := if content.isKeyed ∧ !shown.isEmpty then " )".toList else [')']
  '(' :: [' '].intercalate shown ++ ending

/-- The letters of the traits of a variable. -/
def traitLetters (entry : Variable) : List Char :=
  let list := match entry.content with
    | .indexed _ => ['a']
    | .keyed _ => ['A']
    | _ => []
  let traits := entry.traits
  let letters := match traits.letters with
    | .kept => []
    | .raised => ['u']
    | .lowered => ['l']
  list ++ (if traits.integer then ['i'] else []) ++ (if traits.reference then ['n'] else []) ++
    (if traits.readonly then ['r'] else []) ++ (if traits.exported then ['x'] else []) ++
    letters

/-- A declaration that makes a variable what it is. -/
def declaration (entry : Variable) : List Char :=
  let letters := traitLetters entry
  let start := "declare -".toList ++ (if letters.isEmpty then ['-'] else letters) ++
    ' ' :: entry.name
  match entry.content with
  | .nothing => start
  | .single text => start ++ '=' :: asDeclared text
  | content => if entry.traits.isBare then start else start ++ '=' :: elements content

/-- A variable with its value, as it is listed among all variables. -/
def listed (entry : Variable) : List Char :=
  match entry.content with
  | .nothing => entry.name
  | .single text => entry.name ++ '=' :: asNeeded text
  | content => entry.name ++ '=' :: elements content

end Quoting
end Shell
end Snippets
