import Snippets.Number.Shortest

/-!
# Durations

A duration below a minute is shown in seconds with one decimal place, a half going to
the even neighbour; a longer one in whole minutes and seconds, cut off.
-/

namespace Snippets
namespace Duration

/-- Seconds as tenths with one decimal place. -/
def tenthsText (negative : Bool) (tenths : Nat) : String :=
  (if negative then "-" else "") ++ toString (tenths / 10) ++ "." ++ toString (tenths % 10) ++
    "s"

/-- Whole seconds as minutes and seconds. -/
def minutesText (seconds : Nat) : String :=
  toString (seconds / 60) ++ "m " ++ toString (seconds % 60) ++ "s"

/-- The text of a duration, a signed fraction of a second. -/
def textOfRatio (negative : Bool) (numerator denominator : Nat) : String :=
  if negative ∨ numerator < 60 * denominator then
    tenthsText negative (Number.roundHalfEven (10 * numerator) denominator)
  else minutesText (numerator / denominator)

/-- The text of a duration in seconds. -/
def text : Number.Binary64 → String
  | .finite negative units => textOfRatio negative units Number.Binary64.one
  | .infinite negative => if negative then "-infs" else "infm"
  | .nan _ => "nans"

/-- The text of a whole number of seconds.  Below a minute it is rounded to a
floating-point number, which has to be finite. -/
def textOfInt? (seconds : Int) : Option String :=
  if 60 ≤ seconds then some (minutesText seconds.toNat)
  else
    match Number.Binary64.ofInt seconds with
    | .infinite _ => none
    | rounded => some (text rounded)

end Duration
end Snippets
