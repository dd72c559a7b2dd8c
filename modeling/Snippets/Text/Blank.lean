/-!
# Blank characters

The characters that separate words: the ASCII spaces and separators, and the
space and line separators of Unicode.  The zero-width space, the byte order
mark and the Mongolian vowel separator are not blank.
-/

namespace Snippets
namespace Text

/-- Whether a character is blank. -/
def isBlank (character : Char) : Bool :=
  let code := character.toNat
  (9 ≤ code && code ≤ 13) || (28 ≤ code && code ≤ 32) || code = 0x85 || code = 0xA0 ||
    code = 0x1680 || (0x2000 ≤ code && code ≤ 0x200A) || code = 0x2028 || code = 0x2029 ||
    code = 0x202F || code = 0x205F || code = 0x3000

/-- Whether a text has no character but blank ones. -/
def isBlankText (text : String) : Bool :=
  text.toList.all isBlank

/-- The characters of a text without the blank ones at either end. -/
def stripList (characters : List Char) : List Char :=
  ((characters.dropWhile isBlank).reverse.dropWhile isBlank).reverse

/-- A text without the blank characters at either end. -/
def strip (text : String) : String :=
  String.ofList (stripList text.toList)

end Text
end Snippets
