/-!
# Sets of code points as ranges

A property of characters is held as a list of ranges in ascending order, so that
a search may stop at the first range beyond the code point.
-/

namespace Snippets
namespace Text

/-- Whether a code point lies in one of the ascending ranges. -/
def inRanges : List (Nat × Nat) → Nat → Bool
  | [], _ => false
  | range :: rest, code =>
      if code < range.1 then false
      else if code ≤ range.2 then true
      else inRanges rest code

/-- A code point in one of the ranges lies between the ends of a listed range. -/
theorem exists_mem_of_inRanges {ranges : List (Nat × Nat)} {code : Nat}
    (found : inRanges ranges code = true) :
    ∃ range ∈ ranges, range.1 ≤ code ∧ code ≤ range.2 := by
  induction ranges with
  | nil => simp [inRanges] at found
  | cons range rest ih =>
    unfold inRanges at found
    split at found
    · contradiction
    · split at found
      · exact ⟨range, by simp, by omega, by omega⟩
      · obtain ⟨other, member, bounds⟩ := ih found
        exact ⟨other, by simp [member], bounds⟩

end Text
end Snippets
