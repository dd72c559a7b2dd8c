import Snippets.Datum

/-!
# Issues with data

What a check of data against a schema finds: a list of issues, each with the place
of the offending value and the rule that it breaks.
-/

namespace Snippets

/-- One step on the way to a value. -/
inductive PathStep where
  /-- The entry of a mapping under a key, or the place before such an entry. -/
  | key (name : String)
  /-- The entry of a mapping under a number. -/
  | number (value : Int)
  deriving DecidableEq, Repr

namespace PathStep

/-- The largest number that a step shows as a number. -/
def limit : Int := 9223372036854775807

/-- The step to the entry under a key. -/
def ofDatum : Datum → PathStep
  | .text name => key name
  | .brokenText codes => key (Text.repair codes)
  | .bool value => number (if value then 1 else 0)
  | .int value =>
      if -limit - 1 ≤ value ∧ value ≤ limit then number value else key (Datum.int value).shown
  | other => key other.shown

/-- A step as messages show it. -/
def text : PathStep → String
  | key name => name
  | number value => toString value

end PathStep

/-- A rule that a value breaks. -/
inductive Fault where
  /-- A required entry is missing. -/
  | missing
  /-- An entry that the schema does not know. -/
  | extra
  /-- A key of a schema's mapping that is not a text. -/
  | keyNotText
  /-- A value that is not a mapping with the entries of the named schema. -/
  | notSchema (name : String)
  /-- A value that is not a mapping. -/
  | notMapping
  /-- A value that is not a text. -/
  | notText
  /-- Bytes that are not a text. -/
  | notUnicode
  /-- A text with fewer characters than required. -/
  | tooShort (least : Nat)
  /-- A value that is not a truth value. -/
  | notBool
  /-- A number or a text that names no truth value. -/
  | unreadableBool
  /-- A value that is not a whole number. -/
  | notInt
  /-- A text that is no whole number. -/
  | unreadableInt
  /-- A number with a fraction. -/
  | fractional
  /-- A number too large to be taken as a whole number. -/
  | oversizedInt
  /-- A number that is infinite or none. -/
  | notFinite
  /-- A number below the least one. -/
  | tooSmall (least : Int)
  /-- A value that is none of the two listed ones. -/
  | notOneOf (first second : String)
  /-- A value refused for a reason of its own. -/
  | refused (reason : String)
  deriving DecidableEq, Repr

namespace Fault

/-- The message for a fault. -/
def message : Fault → String
  | missing => "Field required"
  | extra => "Extra inputs are not permitted"
  | keyNotText => "Keys should be strings"
  | notSchema name => "Input should be a valid dictionary or instance of " ++ name
  | notMapping => "Input should be a valid dictionary"
  | notText => "Input should be a valid string"
  | notUnicode =>
      "Input should be a valid string, unable to parse raw data as a unicode string"
  | tooShort least =>
      "String should have at least " ++ toString least ++
        (if least = 1 then " character" else " characters")
  | notBool => "Input should be a valid boolean"
  | unreadableBool => "Input should be a valid boolean, unable to interpret input"
  | notInt => "Input should be a valid integer"
  | unreadableInt =>
      "Input should be a valid integer, unable to parse string as an integer"
  | fractional => "Input should be a valid integer, got a number with a fractional part"
  | oversizedInt => "Unable to parse input string as an integer, exceeded maximum size"
  | notFinite => "Input should be a finite number"
  | tooSmall least => "Input should be greater than or equal to " ++ toString least
  | notOneOf first second => "Input should be '" ++ first ++ "' or '" ++ second ++ "'"
  | refused reason => "Value error, " ++ reason

/-- The short name of a fault. -/
def code : Fault → String
  | missing => "missing"
  | extra => "extra_forbidden"
  | keyNotText => "invalid_key"
  | notSchema _ => "model_type"
  | notMapping => "dict_type"
  | notText => "string_type"
  | notUnicode => "string_unicode"
  | tooShort _ => "string_too_short"
  | notBool => "bool_type"
  | unreadableBool => "bool_parsing"
  | notInt => "int_type"
  | unreadableInt => "int_parsing"
  | fractional => "int_from_float"
  | oversizedInt => "int_parsing_size"
  | notFinite => "finite_number"
  | tooSmall _ => "greater_than_equal"
  | notOneOf _ _ => "literal_error"
  | refused _ => "value_error"

end Fault

/-- A fault and its place. -/
structure Issue where
  /-- The way from the whole value to the offending one. -/
  path : List PathStep
  /-- The rule that is broken. -/
  fault : Fault
  deriving DecidableEq, Repr

namespace Issue

/-- A fault of the value at hand. -/
def here (fault : Fault) : Issue :=
  ⟨[], fault⟩

/-- The same issue, seen from a mapping around the value. -/
def under (step : PathStep) (issue : Issue) : Issue :=
  ⟨step :: issue.path, issue.fault⟩

end Issue

/-- The result of a check: the checked value, or all issues found. -/
abbrev Checked (α : Type) := Except (List Issue) α

namespace Checked

/-- A check that finds one fault in the value at hand. -/
def fail {α : Type} (fault : Fault) : Checked α :=
  .error [Issue.here fault]

/-- The issues of a check. -/
def issues {α : Type} : Checked α → List Issue
  | .ok _ => []
  | .error found => found

/-- The same check, seen from a mapping around the value. -/
def under {α : Type} (step : PathStep) (checked : Checked α) : Checked α :=
  checked.mapError fun found => found.map (Issue.under step)

end Checked
end Snippets
