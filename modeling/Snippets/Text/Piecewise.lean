import Snippets.Number.Binary64
import Snippets.Text.LineBreak
import Snippets.Text.Utf8

/-!
# Texts that are read in pieces

If only so many characters of a file are wanted, its bytes are read in pieces, and no further
than it takes to have these characters.  How many bytes a piece has is guessed from how many
bytes a character took in the piece before.  A character or a break that the end of a piece may
have cut apart waits for the next one.
-/

namespace Snippets
namespace Text

/-- Whether bytes are the start of the encoding of a character, but not all of it. -/
def isStart : List UInt8 → Bool
  | [] => true
  | lead :: rest =>
      match trail? lead.toNat with
      | some (count, _) => rest.length < count && trailLength lead.toNat rest == rest.length
      | none => false

/-- The text of bytes that others may follow, without the character that they may end in the
middle of. -/
def decodeStart (bytes : List UInt8) : Option (List Char) :=
  (List.range 4).findSome? fun count =>
    let size := bytes.length - count
    if isStart (bytes.drop size) then decodeUtf8 (bytes.take size) else none

/-- The text of bytes that others may follow, with unified line breaks.  A carriage return at
their end waits for the line feed that may belong to it. -/
def readStart (bytes : List UInt8) : Option (List Char) :=
  (decodeStart bytes).map fun text =>
    unifyBreaks (if text.getLast? = some '\r' then text.dropLast else text)

/-- How far a file has been read. -/
structure Progress where
  /-- The number of bytes that have been read. -/
  position : Nat
  /-- Their text. -/
  text : List Char
  /-- The number of bytes in the last piece. -/
  bytes : Nat
  /-- The number of characters that they added to the text. -/
  characters : Nat

namespace Progress

/-- Nothing has been read. -/
def start : Progress :=
  ⟨0, [], 0, 0⟩

/-- The least number of bytes in a piece. -/
def leastSize : Nat := 8192

/-- How many bytes are guessed to hold a number of characters.  No character is taken to be
shorter than one byte. -/
def guess (progress : Progress) (missing : Nat) : Nat :=
  if progress.characters = 0 ∨ progress.bytes ≤ progress.characters then missing
  else
    ((Number.Binary64.ofRatio false progress.bytes progress.characters).mul
      (Number.Binary64.ofInt missing)).wholePart

/-- How many bytes are read next if a number of characters is missing. -/
def nextSize (progress : Progress) (missing : Nat) : Nat :=
  max leastSize (progress.guess missing)

theorem nextSize_pos (progress : Progress) (missing : Nat) : 0 < progress.nextSize missing :=
  Nat.lt_of_lt_of_le (by decide : 0 < leastSize) (Nat.le_max_left _ _)

/-- Reads on until there are so many characters.  At the end of the file nothing waits any
more. -/
def readOn (most : Nat) (content : List UInt8) (progress : Progress) : Option (List Char) :=
  if most ≤ progress.text.length then some progress.text
  else if content.length ≤ progress.position then (decodeUtf8 content).map unifyBreaks
  else
    let size := progress.nextSize (most - progress.text.length)
    match readStart (content.take (progress.position + size)) with
    | none => none
    | some text =>
        readOn most content
          ⟨progress.position + size, text, size, text.length - progress.text.length⟩
  termination_by content.length - progress.position
  decreasing_by
    have := progress.nextSize_pos (most - progress.text.length)
    omega

end Progress

/-- The first characters of a file with unified line breaks, at most so many, if the bytes that
are read to have them encode a text. -/
def readUpTo (most : Nat) (content : List UInt8) : Option (List Char) :=
  (Progress.start.readOn most content).map (List.take most)

end Text
end Snippets
