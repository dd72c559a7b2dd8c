import Snippets.Shell.Octets

/-!
# Variables

A variable holds one text or several, each under a number or under a key, and may have
traits that change what it is given.
-/

namespace Snippets
namespace Shell

/-- What a variable holds. -/
inductive Content where
  /-- Nothing. -/
  | nothing
  /-- One text. -/
  | single (text : List Char)
  /-- Texts under numbers, in ascending order. -/
  | indexed (elements : List (Nat × List Char))
  /-- Texts under keys, the latest first. -/
  | keyed (elements : List (List Char × List Char))
  deriving DecidableEq, Repr

/-- How the letters of a value are changed. -/
inductive LetterCase where
  /-- Not at all. -/
  | kept
  /-- They become capitals. -/
  | raised
  /-- They become small. -/
  | lowered
  deriving DecidableEq, Repr

/-- The traits of a variable. -/
structure Traits where
  /-- Whether programs see it. -/
  exported : Bool
  /-- Whether it keeps its value. -/
  readonly : Bool
  /-- Whether it is given values of expressions. -/
  integer : Bool
  /-- How the letters of its value are changed. -/
  letters : LetterCase
  /-- Whether its value is the name of the variable that is meant. -/
  reference : Bool
  /-- Whether it is a list that has never been given values. -/
  isBare : Bool
  deriving DecidableEq, Repr

namespace Traits

/-- No traits. -/
def none : Traits := ⟨false, false, false, .kept, false, false⟩

end Traits

/-- A variable. -/
structure Variable where
  /-- The name. -/
  name : List Char
  /-- What it holds. -/
  content : Content
  /-- Its traits. -/
  traits : Traits
  deriving DecidableEq, Repr

namespace Content

/-- The hash of a key: the bytes are mixed in one by one, each after a multiplication. -/
def hash (key : List Char) : Nat :=
  key.foldl
    (fun mixed octet =>
      let spread := if octet.toNat < 0x80 then octet.toNat else octet.toNat + 0xFFFFFF00
      (mixed * 16777619 % 0x100000000) ^^^ spread)
    2166136261

/-- Keys in the order in which they are listed: by the lower bits of their hashes, and the
latest first where these are the same. -/
def inOrder (elements : List (List Char × List Char)) : List (List Char × List Char) :=
  elements.mergeSort fun first second => hash first.1 % 1024 ≤ hash second.1 % 1024

/-- Puts a text under a number. -/
def putAt (index : Nat) (text : List Char) :
    List (Nat × List Char) → List (Nat × List Char)
  | [] => [(index, text)]
  | (other, before) :: rest =>
      if other = index then (index, text) :: rest
      else if index < other then (index, text) :: (other, before) :: rest
      else (other, before) :: putAt index text rest

/-- Puts a text under a key. -/
def putKey (key text : List Char) (elements : List (List Char × List Char)) :
    List (List Char × List Char) :=
  if elements.any fun element => element.1 = key then
    elements.map fun element => if element.1 = key then (key, text) else element
  else (key, text) :: elements

/-- The texts with their numbers. -/
def numbered : Content → List (Nat × List Char)
  | nothing => []
  | single text => [(0, text)]
  | indexed elements => elements
  | keyed elements => (inOrder elements).zipIdx.map fun entry => (entry.2, entry.1.2)

/-- The texts with the subscripts under which they are found. -/
def entries : Content → List (List Char × List Char)
  | nothing => []
  | single text => [(['0'], text)]
  | indexed elements => elements.map fun element => (ofNat element.1, element.2)
  | keyed elements => inOrder elements

/-- The texts. -/
def texts (content : Content) : List (List Char) :=
  content.entries.map Prod.snd

/-- The text that stands for the whole. -/
def text? : Content → Option (List Char)
  | nothing => none
  | single text => some text
  | indexed elements => elements.lookup 0
  | keyed elements => elements.lookup ['0']

/-- The text under a number. -/
def at? (index : Nat) (content : Content) : Option (List Char) :=
  content.numbered.lookup index

/-- Whether texts are found under keys. -/
def isKeyed : Content → Bool
  | keyed _ => true
  | _ => false

/-- Whether there may be several texts. -/
def isList : Content → Bool
  | indexed _ | keyed _ => true
  | _ => false

/-- The number after the greatest one under which there is a text. -/
def size (content : Content) : Nat :=
  (content.numbered.getLast?.map fun element => element.1 + 1).getD 0

/-- Puts a text in place of the whole. -/
def setText (text : List Char) : Content → Content
  | indexed elements => indexed (putAt 0 text elements)
  | keyed elements => keyed (putKey ['0'] text elements)
  | _ => single text

/-- Puts a text under a number. -/
def setAt (index : Nat) (text : List Char) (content : Content) : Content :=
  indexed (putAt index text content.numbered)

end Content
end Shell
end Snippets
