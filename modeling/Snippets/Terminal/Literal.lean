import Snippets.Number.Reading

/-!
# Literals

The parameters of a handler in markup are a literal: a number, a text, bytes, a word for
truth or for nothing, or a tuple, a set or a dictionary of literals.  Square brackets never
reach it.
-/

namespace Snippets
namespace Terminal
namespace Literal

/-- A token of a literal. -/
inductive Token where
  /-- A number, which may be imaginary. -/
  | number (imaginary : Bool)
  /-- A text or bytes in quotes. -/
  | text (isBytes : Bool)
  /-- A word. -/
  | word (name : String)
  /-- Three dots. -/
  | ellipsis
  /-- A mark of one character. -/
  | mark (sign : Char)
  deriving DecidableEq, Repr

/-- Whether a character may be part of a word. -/
def isWordPart (character : Char) : Bool :=
  character.isAlphanum || character = '_' || 0x80 ≤ character.toNat

/-- Digits with single underscores between them, and what follows. -/
def takeDigits (isDigit : Char → Bool) : List Char → List Char × List Char
  | first :: rest =>
      if isDigit first then
        match rest with
        | '_' :: second :: rest =>
            if isDigit second then
              let (digits, after) := takeDigits isDigit (second :: rest)
              (first :: digits, after)
            else ([first], '_' :: second :: rest)
        | rest =>
            let (digits, after) := takeDigits isDigit rest
            (first :: digits, after)
      else ([], first :: rest)
  | [] => ([], [])

/-- Whether a character is a hexadecimal digit. -/
def isHexDigit (character : Char) : Bool :=
  Number.digitValue character < 16

/-- The base that a letter after a zero announces. -/
def base? (letter : Char) : Option Nat :=
  [('x', 16), ('o', 8), ('b', 2)].lookup letter.toLower

/-- A number in an announced base, from the first digit on, and what follows. -/
def basedNumber? (base : Nat) (text : List Char) : Option (List Char) :=
  let text := if text.head? = some '_' then text.drop 1 else text
  match takeDigits (fun digit => Number.digitValue digit < base) text with
  | ([], _) => none
  | (_, rest) => some rest

/-- What follows an exponent, if there is one. -/
def dropExponent (text : List Char) : Option (List Char) :=
  match text with
  | letter :: rest =>
      if letter = 'e' ∨ letter = 'E' then
        let unsigned := if rest.head?.any (fun sign => sign = '+' || sign = '-') then rest.drop 1
          else rest
        match takeDigits Char.isDigit unsigned with
        | ([], _) => none
        | (_, rest) => some rest
      else none
  | [] => none

/-- A decimal number at the start of a text and what follows.  Zeros at the start of a whole
number are not allowed unless it is zero. -/
def decimalNumber? (text : List Char) : Option (Token × List Char) :=
  let (whole, rest) := takeDigits Char.isDigit text
  let hasPoint := rest.head? = some '.'
  let (fraction, rest) :=
    if hasPoint then takeDigits Char.isDigit (rest.drop 1) else ([], rest)
  if whole = [] ∧ fraction = [] then none
  else
    let exponent := dropExponent rest
    let rest := exponent.getD rest
    let imaginary := rest.head?.any fun letter => letter = 'j' || letter = 'J'
    let rest := if imaginary then rest.drop 1 else rest
    let isWhole := !hasPoint && exponent.isNone && !imaginary
    if isWhole && whole.head? = some '0' && whole.any (· != '0') then none
    else some (.number imaginary, rest)

/-- A number at the start of a text and what follows, which is not part of a word. -/
def number? (text : List Char) : Option (Token × List Char) := do
  let (token, rest) ←
    match text with
    | '0' :: letter :: rest =>
        match base? letter with
        | some base => (basedNumber? base rest).map fun rest => (Token.number false, rest)
        | none => decimalNumber? text
    | _ => decimalNumber? text
  if rest.head?.any isWordPart then none else some (token, rest)

/-- The number of hexadecimal digits that follow a letter after a backslash. -/
def escapeLength (isBytes : Bool) (letter : Char) : Nat :=
  if letter = 'x' then 2
  else if isBytes then 0
  else if letter = 'u' then 4
  else if letter = 'U' then 8
  else 0

/-- Whether the characters after the letter of an escape are as it needs them. -/
def isEscape (isBytes : Bool) (letter : Char) (rest : List Char) : Bool :=
  if letter = 'N' ∧ ¬isBytes then rest.head? = some '\x7b' && rest.contains '\x7d'
  else
    let digits := rest.take (escapeLength isBytes letter)
    digits.length = escapeLength isBytes letter && digits.all isHexDigit &&
      Number.ofDigits 16 digits ≤ 0x10FFFF

/-- What follows the closing quotes of a text. -/
def afterQuotes? (quotes : List Char) (raw isBytes : Bool) : List Char → Option (List Char)
  | [] => none
  | '\\' :: letter :: rest =>
      if isBytes && 0x80 ≤ letter.toNat then none
      else if raw || isEscape isBytes letter rest then afterQuotes? quotes raw isBytes rest
      else none
  | character :: rest =>
      if quotes.isPrefixOf (character :: rest) then some (rest.drop (quotes.length - 1))
      else if character = '\n' ∧ quotes.length = 1 then none
      else if isBytes && 0x80 ≤ character.toNat then none
      else afterQuotes? quotes raw isBytes rest

/-- What letters before quotes say: whether the text is raw, and whether it is bytes. -/
def textKind? (letters : List Char) : Option (Bool × Bool) :=
  [("", false, false), ("r", true, false), ("u", false, false), ("b", false, true),
   ("br", true, true), ("rb", true, true)].lookup
    (String.ofList (letters.map Char.toLower))

/-- A text in quotes after some letters, from its quote on, and what follows. -/
def text? (letters : List Char) (quote : Char) (rest : List Char) :
    Option (Token × List Char) := do
  let (raw, isBytes) ← textKind? letters
  let quotes :=
    if [quote, quote, quote].isPrefixOf (quote :: rest) then [quote, quote, quote] else [quote]
  let after ← afterQuotes? quotes raw isBytes (rest.drop (quotes.length - 1))
  return (.text isBytes, after)

/-- Whether a character is a quote. -/
def isQuote (character : Char) : Bool :=
  character = '\'' || character = '"'

/-- A word, or a text with letters before its quote, and what follows. -/
def word? (text : List Char) : Option (Token × List Char) :=
  let letters := text.takeWhile isWordPart
  match text.drop letters.length with
  | next :: rest =>
      if isQuote next then text? letters next rest
      else some (.word (String.ofList letters), next :: rest)
  | [] => some (.word (String.ofList letters), [])

/-- The first token of a text and what follows. -/
def token? (text : List Char) : Option (Token × List Char) :=
  match text with
  | [] => none
  | '.' :: '.' :: '.' :: rest => some (.ellipsis, rest)
  | character :: rest =>
      if character.isDigit ∨ character = '.' then number? text
      else if isQuote character then text? [] character rest
      else if isWordPart character then word? text
      else if "()\x7b\x7d,:+-".toList.contains character then some (.mark character, rest)
      else none

/-- The greatest number of brackets around a token. -/
def deepest : Nat := 200

/-- The tokens of a text inside a number of brackets.  Only there a line may end. -/
def tokens? : Nat → Nat → List Char → Option (List Token)
  | 0, _, _ => none
  | _, _, [] => some []
  | fuel + 1, depth, character :: rest =>
      if character = ' ' ∨ character = '\t' ∨ character = '\x0c' then tokens? fuel depth rest
      else if character = '\n' ∧ 0 < depth then tokens? fuel depth rest
      else if character = '\\' ∧ rest.head? = some '\n' then tokens? fuel depth (rest.drop 1)
      else if character = '#' then tokens? fuel depth (rest.dropWhile (· != '\n'))
      else
        match token? (character :: rest) with
        | none => none
        | some (token, rest) =>
            let depth :=
              if token = .mark '(' ∨ token = .mark '\x7b' then depth + 1
              else if token = .mark ')' ∨ token = .mark '\x7d' then depth - 1
              else depth
            if deepest < depth then none else (tokens? fuel depth rest).map (token :: ·)

/-- What is known of a literal. -/
inductive Kind where
  /-- A whole or a floating-point number without a sign. -/
  | real
  /-- An imaginary number without a sign. -/
  | imaginary
  /-- A number that is not imaginary, with a sign. -/
  | signed
  /-- Any other value, which may be one that is no key. -/
  | other (isKey : Bool)
  deriving DecidableEq, Repr

/-- Whether a literal can be a key or the element of a set. -/
def Kind.isKey : Kind → Bool
  | .other isKey => isKey
  | _ => true

/-- Reads a literal from tokens. -/
abbrev Reader (α : Type) := List Token → Option (α × List Token)

/-- Reads what follows a text: more texts, which are joined to it. -/
def joinTexts (isBytes : Bool) : List Token → Option (List Token)
  | .text other :: rest => if other = isBytes then joinTexts isBytes rest else none
  | rest => some rest

/-- Reads parts with commas between them up to a mark, which may follow a comma.  The
result says whether there is a comma. -/
def items {α : Type} (read : Reader α) (close : Char) : Nat → Reader (List α × Bool)
  | 0, _ => none
  | fuel + 1, tokens => do
      let (first, rest) ← read tokens
      match rest with
      | .mark ',' :: .mark sign :: rest =>
          if sign = close then some (([first], true), rest)
          else do
            let ((others, _), rest) ← items read close fuel (.mark sign :: rest)
            some ((first :: others, true), rest)
      | .mark ',' :: rest => do
          let ((others, _), rest) ← items read close fuel rest
          some ((first :: others, true), rest)
      | .mark sign :: rest => if sign = close then some (([first], false), rest) else none
      | _ => none

/-- Reads an entry of a dictionary or an element of a set.  The result says which of them it
is. -/
def entry (read : Reader Kind) : Reader Bool := fun tokens => do
  let (key, rest) ← read tokens
  if !key.isKey then none
  match rest with
  | .mark ':' :: rest =>
      let (_, rest) ← read rest
      some (true, rest)
  | rest => some (false, rest)

/-- Reads a literal without a sign. -/
def atom (read : Reader Kind) : Reader Kind := fun tokens =>
  match tokens with
  | .number imaginary :: rest => some (if imaginary then .imaginary else .real, rest)
  | .text isBytes :: rest => (joinTexts isBytes rest).map fun rest => (.other true, rest)
  | .ellipsis :: rest => some (.other true, rest)
  | .word "set" :: .mark '(' :: .mark ')' :: rest => some (.other false, rest)
  | .word name :: rest =>
      if ["None", "True", "False"].contains name then some (.other true, rest) else none
  | .mark '(' :: .mark ')' :: rest => some (.other true, rest)
  | .mark '(' :: rest =>
      match items read ')' (rest.length + 1) rest with
      | some (([value], false), rest) => some (value, rest)
      | some ((values, _), rest) => some (.other (values.all Kind.isKey), rest)
      | none => none
  | .mark '\x7b' :: .mark '\x7d' :: rest => some (.other false, rest)
  | .mark '\x7b' :: rest =>
      match items (entry read) '\x7d' (rest.length + 1) rest with
      | some ((kinds, _), rest) =>
          if kinds.all id || !kinds.any id then some (.other false, rest) else none
      | none => none
  | _ => none

/-- Reads a literal with its sign, if it has one. -/
def signedAtom (read : Reader Kind) : Reader Kind := fun tokens =>
  match tokens with
  | .mark sign :: rest =>
      if sign = '+' ∨ sign = '-' then
        match atom read rest with
        | some (.real, rest) => some (.signed, rest)
        | some (.imaginary, rest) => some (.other true, rest)
        | _ => none
      else atom read tokens
  | _ => atom read tokens

/-- Reads a literal, which may be the sum of a number and an imaginary one. -/
def value : Nat → Reader Kind
  | 0, _ => none
  | depth + 1, tokens => do
      let (first, rest) ← signedAtom (value depth) tokens
      match first, rest with
      | kind, .mark sign :: rest =>
          if sign = '+' ∨ sign = '-' then
            match kind, atom (value depth) rest with
            | .real, some (.imaginary, rest) => some (.other true, rest)
            | .signed, some (.imaginary, rest) => some (.other true, rest)
            | _, _ => none
          else some (kind, .mark sign :: rest)
      | kind, rest => some (kind, rest)

/-- Whether a text is a literal, or several with commas between them. -/
def isLiteral (text : List Char) : Bool :=
  match tokens? (text.length + 1) 0 text with
  | none => false
  | some tokens =>
      (items (value (tokens.length + 1)) ')' (tokens.length + 1)
        (tokens ++ [.mark ')'])).any fun result => result.2.isEmpty

end Literal
end Terminal
end Snippets
