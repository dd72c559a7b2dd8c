import Snippets.Calendar
import Snippets.Number.Shortest
import Snippets.Text.Quoted
import Snippets.Text.Utf8

/-!
# Data without a schema

The value of a configuration file before it is checked: null, a scalar of one of
eight kinds, a list, a set, or a mapping whose entries keep their order.  Entries under
distinct keys stand in the order in which the keys first came up.
-/

namespace Snippets
namespace Association

/-- Puts a value under a key.  A key that is there already keeps its place. -/
def put {κ α : Type} (same : κ → κ → Bool) (key : κ) (value : α) :
    List (κ × α) → List (κ × α)
  | [] => [(key, value)]
  | entry :: rest =>
      if same entry.1 key then (entry.1, value) :: rest else entry :: put same key value rest

/-- Puts values under their keys one after the other. -/
def ofList {κ α : Type} (same : κ → κ → Bool) (entries : List (κ × α)) : List (κ × α) :=
  entries.foldl (fun result entry => put same entry.1 entry.2 result) []

/-- A new key comes after all others. -/
theorem put_of_new {κ α : Type} {same : κ → κ → Bool} {key : κ} {value : α}
    {entries : List (κ × α)} (new : ∀ entry ∈ entries, same entry.1 key = false) :
    put same key value entries = entries ++ [(key, value)] := by
  induction entries with
  | nil => rfl
  | cons entry rest hypothesis =>
    have first := new entry (by simp)
    have later := hypothesis fun other member => new other (by simp [member])
    simp [put, first, later]

end Association

/-- A value of a data file. -/
inductive Datum where
  /-- No value. -/
  | null
  /-- A truth value. -/
  | bool (value : Bool)
  /-- A whole number. -/
  | int (value : Int)
  /-- A floating-point number. -/
  | float (value : Number.Binary64)
  /-- A text. -/
  | text (value : String)
  /-- A text whose codes are not all those of characters. -/
  | brokenText (codes : List Nat)
  /-- A sequence of bytes. -/
  | bytes (value : List UInt8)
  /-- A date. -/
  | date (value : Calendar.Date)
  /-- A moment. -/
  | moment (value : Calendar.Moment)
  /-- Values in order. -/
  | list (items : List Datum)
  /-- Distinct values. -/
  | set (items : List Datum)
  /-- Values under distinct keys. -/
  | mapping (entries : List (Datum × Datum))
  deriving Inhabited

namespace Datum

/-- The kind of a value, as messages name it. -/
def kindName : Datum → String
  | null => "NoneType"
  | bool _ => "bool"
  | int _ => "int"
  | float _ => "float"
  | text _ => "str"
  | brokenText _ => "str"
  | bytes _ => "bytes"
  | date _ => "date"
  | moment _ => "datetime"
  | list _ => "list"
  | set _ => "set"
  | mapping _ => "dict"

/-- Whether a value can be a key: it is neither a list, a set nor a mapping. -/
def isKey : Datum → Bool
  | list _ => false
  | set _ => false
  | mapping _ => false
  | _ => true

/-- The number that a key stands for.  A truth value is the number 0 or 1, and a
floating-point number without a fraction is a whole number. -/
def keyNumber? : Datum → Option Int
  | bool value => some (if value then 1 else 0)
  | int value => some value
  | float value => value.toInt?
  | _ => none

/-- Whether two keys are the same. -/
def sameKey (left right : Datum) : Bool :=
  match left.keyNumber?, right.keyNumber? with
  | some first, some second => first == second
  | some _, none => false
  | none, some _ => false
  | none, none =>
      match left, right with
      | null, null => true
      | float first, float second => first == second
      | text first, text second => first == second
      | brokenText first, brokenText second => first == second
      | bytes first, bytes second => first == second
      | date first, date second => first == second
      | moment first, moment second => first.sameTime second
      | _, _ => false

/-- Puts a value under a key of a mapping. -/
def insertEntry (key value : Datum) (entries : List (Datum × Datum)) : List (Datum × Datum) :=
  Association.put sameKey key value entries

/-- The value under a text key. -/
def field? (name : String) (entries : List (Datum × Datum)) : Option Datum :=
  (entries.find? fun entry =>
    match entry.1 with
    | text key => key == name
    | _ => false).map Prod.snd

/-- One byte inside the given quotes. -/
def quotedByte (quote : Char) (byte : UInt8) : List Char :=
  let character := Char.ofNat byte.toNat
  if byte.toNat < 0x80 then Text.quotedChar quote character
  else '\\' :: 'x' :: Text.hexDigits 2 byte.toNat

/-- Bytes in quotes. -/
def quotedBytes (value : List UInt8) : String :=
  let quote := Text.quoteFor (value.map fun byte => Char.ofNat byte.toNat)
  String.ofList ('b' :: quote :: value.flatMap (quotedByte quote) ++ [quote])

/-- The distance of a clock from universal time. -/
def offsetText (offset : Int) : String :=
  if offset = 0 then "datetime.timezone.utc"
  else if offset < 0 then
    "datetime.timezone(datetime.timedelta(days=-1, seconds=" ++
      toString (offset * 60 + 86400) ++ "))"
  else "datetime.timezone(datetime.timedelta(seconds=" ++ toString (offset * 60) ++ "))"

/-- A date with its three numbers. -/
def dateNumbers (date : Calendar.Date) : List Nat :=
  [date.year, date.month, date.day]

/-- The numbers of a moment, without seconds and microseconds that are zero. -/
def momentNumbers (moment : Calendar.Moment) : List Nat :=
  dateNumbers moment.date ++ [moment.hour, moment.minute] ++
    (if moment.microsecond ≠ 0 then [moment.second, moment.microsecond]
     else if moment.second ≠ 0 then [moment.second]
     else [])

/-- Numbers with a comma between them. -/
def numberList (numbers : List Nat) : String :=
  ", ".intercalate (numbers.map toString)

/-- A key as messages show it. -/
def shown : Datum → String
  | null => "None"
  | bool value => if value then "True" else "False"
  | int value => toString value
  | float value => value.text
  | text value => Text.quoted value
  | brokenText codes => Text.quoted (Text.repair codes)
  | bytes value => quotedBytes value
  | date value => "datetime.date(" ++ numberList (dateNumbers value) ++ ")"
  | moment value =>
      "datetime.datetime(" ++ numberList (momentNumbers value) ++
        (match value.offset with
         | none => ""
         | some offset => ", tzinfo=" ++ offsetText offset) ++ ")"
  | list _ => "[...]"
  | set _ => "set(...)"
  | mapping _ => "..."

end Datum

end Snippets
