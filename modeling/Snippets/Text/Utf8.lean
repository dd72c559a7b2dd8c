/-!
# UTF-8

Decoding of bytes as text.  Every character has one encoding; overlong
forms, surrogates, code points beyond the last one and incomplete sequences are
refused, or replaced where a text is wanted in any case.
-/

namespace Snippets
namespace Text

/-- The lower six bits of a continuation byte. -/
def continuation? (byte : UInt8) : Option Nat :=
  if 0x80 ≤ byte.toNat ∧ byte.toNat < 0xC0 then some (byte.toNat - 0x80) else none

/-- Whether a code is that of half of a surrogate pair, which is no character. -/
def isSurrogate (code : Nat) : Bool :=
  0xD800 ≤ code && code ≤ 0xDFFF

/-- The character of a code point in a range, unless it is a surrogate. -/
def charIn? (first last code : Nat) : Option Char :=
  if first ≤ code ∧ code ≤ last ∧ !isSurrogate code then some (Char.ofNat code) else none

/-- Decodes bytes after the characters already decoded, which are in reverse. -/
def decodeFrom (result : List Char) : List UInt8 → Option (List Char)
  | [] => some result.reverse
  | first :: rest =>
      let lead := first.toNat
      if lead < 0x80 then decodeFrom (Char.ofNat lead :: result) rest
      else if lead < 0xC0 then none
      else if lead < 0xE0 then
        match rest with
        | second :: rest =>
            match continuation? second with
            | some low =>
                match charIn? 0x80 0x7FF ((lead - 0xC0) * 64 + low) with
                | some character => decodeFrom (character :: result) rest
                | none => none
            | none => none
        | [] => none
      else if lead < 0xF0 then
        match rest with
        | second :: third :: rest =>
            match continuation? second, continuation? third with
            | some middle, some low =>
                match charIn? 0x800 0xFFFF (((lead - 0xE0) * 64 + middle) * 64 + low) with
                | some character => decodeFrom (character :: result) rest
                | none => none
            | _, _ => none
        | _ => none
      else
        match rest with
        | second :: third :: fourth :: rest =>
            match continuation? second, continuation? third, continuation? fourth with
            | some high, some middle, some low =>
                match charIn? 0x10000 0x10FFFF
                    ((((lead - 0xF0) * 64 + high) * 64 + middle) * 64 + low) with
                | some character => decodeFrom (character :: result) rest
                | none => none
            | _, _, _ => none
        | _ => none

/-- The text that bytes encode, if they encode one. -/
def decodeUtf8 (bytes : List UInt8) : Option (List Char) :=
  decodeFrom [] bytes

/-- How many bytes follow the first one of a character, and the least and the greatest number
of the byte after it. -/
def trail? (lead : Nat) : Option (Nat × Nat × Nat) :=
  if lead < 0xC2 then none
  else if lead < 0xE0 then some (1, 0x80, 0xBF)
  else if lead < 0xF0 then
    some (2, if lead = 0xE0 then 0xA0 else 0x80, if lead = 0xED then 0x9F else 0xBF)
  else if lead < 0xF5 then
    some (3, if lead = 0xF0 then 0x90 else 0x80, if lead = 0xF4 then 0x8F else 0xBF)
  else none

/-- How many bytes after the first one belong to the same character, as far as they go. -/
def trailLength (lead : Nat) (rest : List UInt8) : Nat :=
  match trail? lead, rest with
  | some (count, least, greatest), second :: rest =>
      if least ≤ second.toNat ∧ second.toNat ≤ greatest then
        1 + ((rest.take (count - 1)).takeWhile fun byte => (continuation? byte).isSome).length
      else 0
  | _, _ => 0

/-- Decodes bytes after leaving some out.  The start of a character that does not go on becomes
one replacement character, and so does each byte that is part of none. -/
def decodeAnyFrom : Nat → List UInt8 → List Char
  | _, [] => []
  | skipped + 1, _ :: rest => decodeAnyFrom skipped rest
  | 0, lead :: rest =>
      let length := trailLength lead.toNat rest
      let character := match decodeUtf8 (lead :: rest.take length) with
        | some [character] => character
        | _ => '\uFFFD'
      character :: decodeAnyFrom length rest

/-- The text of any bytes. -/
def decodeAny (bytes : List UInt8) : String :=
  String.ofList (decodeAnyFrom 0 bytes)

/-- The bytes of one character. -/
def encodeChar (character : Char) : List UInt8 :=
  let code := character.toNat
  if code < 0x80 then [code.toUInt8]
  else if code < 0x800 then [(0xC0 + code / 64).toUInt8, (0x80 + code % 64).toUInt8]
  else if code < 0x10000 then
    [(0xE0 + code / 4096).toUInt8, (0x80 + code / 64 % 64).toUInt8, (0x80 + code % 64).toUInt8]
  else
    [(0xF0 + code / 262144).toUInt8, (0x80 + code / 4096 % 64).toUInt8,
     (0x80 + code / 64 % 64).toUInt8, (0x80 + code % 64).toUInt8]

/-- The bytes of a text. -/
def encodeUtf8 (characters : List Char) : List UInt8 :=
  characters.flatMap encodeChar

/-- The text of some codes, with a replacement character for each of the three bytes that
a surrogate would take. -/
def repair (codes : List Nat) : String :=
  String.ofList (codes.flatMap fun code =>
    if isSurrogate code then List.replicate 3 '\uFFFD' else [Char.ofNat code])

end Text
end Snippets
