import Snippets.Number.Reading
import Snippets.Text.Blank
import Snippets.Text.Lowercase

/-!
# Names of styles

A style may be named in many ways.  Names with the same effect have the same normal form:
attributes in a fixed order, then the color, the color behind the text, and the link.  A
color is named by a word, by six hexadecimal digits, by its number among 256, or by its
three parts.
-/

namespace Snippets
namespace Terminal

/-- Why a text names no style. -/
inductive StyleFailure where
  /-- A word has no meaning. -/
  | unknownWord
  /-- A part of a color is not a number. -/
  | unreadableColor
  deriving DecidableEq, Repr

namespace Color

/-- The words for colors, with a space between them. -/
def words : String :=
  "black red green yellow blue magenta cyan white bright_black bright_red bright_green " ++
  "bright_yellow bright_blue bright_magenta bright_cyan bright_white grey0 gray0 navy_blue " ++
  "dark_blue blue3 blue1 dark_green deep_sky_blue4 dodger_blue3 dodger_blue2 green4 " ++
  "spring_green4 turquoise4 deep_sky_blue3 dodger_blue1 green3 spring_green3 dark_cyan " ++
  "light_sea_green deep_sky_blue2 deep_sky_blue1 spring_green2 cyan3 dark_turquoise " ++
  "turquoise2 green1 spring_green1 medium_spring_green cyan2 cyan1 dark_red deep_pink4 " ++
  "purple4 purple3 blue_violet orange4 grey37 gray37 medium_purple4 slate_blue3 royal_blue1 " ++
  "chartreuse4 dark_sea_green4 pale_turquoise4 steel_blue steel_blue3 cornflower_blue " ++
  "chartreuse3 cadet_blue sky_blue3 steel_blue1 pale_green3 sea_green3 aquamarine3 " ++
  "medium_turquoise chartreuse2 sea_green2 sea_green1 aquamarine1 dark_slate_gray2 " ++
  "dark_magenta dark_violet purple light_pink4 plum4 medium_purple3 slate_blue1 yellow4 " ++
  "wheat4 grey53 gray53 light_slate_grey light_slate_gray medium_purple light_slate_blue " ++
  "dark_olive_green3 dark_sea_green light_sky_blue3 sky_blue2 dark_sea_green3 " ++
  "dark_slate_gray3 sky_blue1 chartreuse1 light_green pale_green1 dark_slate_gray1 red3 " ++
  "medium_violet_red magenta3 dark_orange3 indian_red hot_pink3 medium_orchid3 " ++
  "medium_orchid medium_purple2 dark_goldenrod light_salmon3 rosy_brown grey63 gray63 " ++
  "medium_purple1 gold3 dark_khaki navajo_white3 grey69 gray69 light_steel_blue3 " ++
  "light_steel_blue yellow3 dark_sea_green2 light_cyan3 light_sky_blue1 green_yellow " ++
  "dark_olive_green2 dark_sea_green1 pale_turquoise1 deep_pink3 magenta2 hot_pink2 orchid " ++
  "medium_orchid1 orange3 light_pink3 pink3 plum3 violet light_goldenrod3 tan misty_rose3 " ++
  "thistle3 plum2 khaki3 light_goldenrod2 light_yellow3 grey84 gray84 light_steel_blue1 " ++
  "yellow2 dark_olive_green1 honeydew2 light_cyan1 red1 deep_pink2 deep_pink1 magenta1 " ++
  "orange_red1 indian_red1 hot_pink dark_orange salmon1 light_coral pale_violet_red1 " ++
  "orchid2 orchid1 orange1 sandy_brown light_salmon1 light_pink1 pink1 plum1 gold1 " ++
  "navajo_white1 misty_rose1 thistle1 yellow1 light_goldenrod1 khaki1 wheat1 cornsilk1 " ++
  "grey100 gray100 grey3 gray3 grey7 gray7 grey11 gray11 grey15 gray15 grey19 gray19 grey23 " ++
  "gray23 grey27 gray27 grey30 gray30 grey35 gray35 grey39 gray39 grey42 gray42 grey46 " ++
  "gray46 grey50 gray50 grey54 gray54 grey58 gray58 grey62 gray62 grey66 gray66 grey70 " ++
  "gray70 grey74 gray74 grey78 gray78 grey82 gray82 grey85 gray85 grey89 gray89 grey93 " ++
  "gray93"

/-- The parts of a text between separators. -/
def parts (separator : Char) (text : List Char) : List (List Char) :=
  text.foldr
    (fun character parts =>
      if character = separator then [] :: parts
      else
        match parts with
        | part :: rest => (character :: part) :: rest
        | [] => [[character]])
    [[]]

/-- Whether a word names a color. -/
def isWord (word : List Char) : Bool :=
  word ≠ [] && (word == "default".toList || (parts ' ' words.toList).contains word)

/-- What stands between the brackets after a name. -/
def argument? (name : String) (word : List Char) : Option (List Char) :=
  let start := name.toList ++ ['(']
  if start.isPrefixOf word ∧ word.getLast? = some ')' then
    some (word.drop start.length).dropLast
  else none

/-- The greatest number of a color, and of a part of one. -/
def greatest : Nat := 255

/-- Whether a word is six hexadecimal digits after a number sign. -/
def isHex : List Char → Bool
  | '#' :: digits =>
      digits.length = 6 && digits.all fun digit =>
        digit.isDigit || ('a' ≤ digit && digit ≤ 'f')
  | _ => false

/-- Whether digits are the number of a color. -/
def isNumber (digits : List Char) : Bool :=
  digits ≠ [] && digits.length ≤ 3 && digits.all Char.isDigit &&
    Number.ofDigits 10 digits ≤ greatest

/-- Checks the parts of a color. -/
def checkParts (content : List Char) : Except StyleFailure Unit :=
  let isPart := fun character : Char => character = ',' || (Text.digit? character).isSome
  let components := parts ',' content
  if content = [] ∨ !content.all isPart ∨ components.length ≠ 3 then .error .unknownWord
  else
    match components.mapM (Number.intOfText? 10) with
    | none => .error .unreadableColor
    | some values =>
        if values.all (· ≤ greatest) then .ok () else .error .unknownWord

/-- Checks that a word in lower case is the name of a color. -/
def check (word : String) : Except StyleFailure Unit :=
  let characters := word.toList
  if isWord characters ∨ isHex characters then .ok ()
  else
    match argument? "color" characters, argument? "rgb" characters with
    | some digits, _ => if isNumber digits then .ok () else .error .unknownWord
    | none, some content => checkParts content
    | none, none => .error .unknownWord

end Color

/-- The attributes in the order of normal forms. -/
def attributes : List String :=
  ["bold", "dim", "italic", "underline", "blink", "blink2", "reverse", "conceal", "strike",
   "underline2", "frame", "encircle", "overline"]

/-- Short names of attributes. -/
def attributeAliases : List (String × String) :=
  [("b", "bold"), ("d", "dim"), ("i", "italic"), ("u", "underline"), ("r", "reverse"),
   ("c", "conceal"), ("s", "strike"), ("uu", "underline2"), ("o", "overline")]

/-- The attribute of a word. -/
def attribute? (word : String) : Option String :=
  if attributes.contains word then some word else attributeAliases.lookup word

/-- What a style says. -/
structure Style where
  /-- The attributes that are turned on or off. -/
  attributes : List (String × Bool) := []
  /-- The color of the text. -/
  color : Option String := none
  /-- The color behind the text. -/
  background : Option String := none
  /-- The target of a link. -/
  link : Option String := none

namespace Style

/-- Turns an attribute on or off. -/
def set (name : String) (on : Bool) (style : Style) : Style :=
  { style with
    attributes := (name, on) :: style.attributes.filter fun entry => entry.1 != name }

/-- The attribute of a name. -/
def knownAttribute (name : String) : Except StyleFailure String :=
  match attribute? name with
  | some name => .ok name
  | none => .error .unknownWord

/-- Reads the words of a style after what they have said so far. -/
def ofWords : Style → List String → Except StyleFailure Style
  | style, [] => .ok style
  | style, word :: rest =>
      match Text.lowercase word, rest with
      | "on", color :: rest => do
          let color := Text.lowercase color
          Color.check color
          ofWords { style with background := some color } rest
      | "on", [] => .error .unknownWord
      | "not", name :: rest => do ofWords (style.set (← knownAttribute name) false) rest
      | "not", [] => .error .unknownWord
      | "link", target :: rest => ofWords { style with link := some target } rest
      | "link", [] => .error .unknownWord
      | word, rest =>
          match attribute? word with
          | some name => ofWords (style.set name true) rest
          | none => do
              Color.check word
              ofWords { style with color := some word } rest

/-- The normal form of a style. -/
def text (style : Style) : String :=
  let shown := Terminal.attributes.filterMap fun name =>
    (style.attributes.lookup name).map fun on => if on then name else "not " ++ name
  let parts := shown ++ style.color.toList ++
    (style.background.toList.map ("on " ++ ·)) ++ (style.link.toList.map ("link " ++ ·))
  if parts.isEmpty then "none" else " ".intercalate parts

/-- The words of a text. -/
def words (text : String) : List String :=
  let parts := text.toList.foldr
    (fun character (parts : List (List Char)) =>
      if Text.isBlank character then [] :: parts
      else
        match parts with
        | part :: rest => (character :: part) :: rest
        | [] => [[character]])
    [[]]
  (parts.filter fun part => !part.isEmpty).map String.ofList

/-- The normal form of the name of a style.  A name without a meaning only loses its capital
letters and the blank characters at its ends. -/
def normal (name : String) : Except StyleFailure String :=
  match ofWords {} (words name) with
  | .ok style => .ok (if Text.strip name = "none" then "none" else style.text)
  | .error .unknownWord => .ok (Text.lowercase (Text.strip name))
  | .error failure => .error failure

end Style

end Terminal
end Snippets
