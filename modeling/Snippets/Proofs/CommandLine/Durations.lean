import Snippets.CommandLine.Execution
import Snippets.Proofs.Lists
import Snippets.Proofs.Number.Nearest
import Snippets.Proofs.Number.Numerals

/-!
# Durations that are read back

A duration is shown in tenths of seconds below a minute and in whole minutes and seconds from there
on.  Its text is read back here, and what is read is compared with the duration itself.  The first
main statement says how far the two are apart, and that a longer duration is never shown as a
shorter one.  The second says which durations are shown with sixty seconds: those just below a
minute that are rounded up to it, whose amount is then shown in two ways.
-/

namespace Snippets

/-! ## Reading -/

namespace Duration

open Number (digitsOf isDigit_of_mem_digitsOf not_mem_digitsOf)

/-- What the text of a duration says. -/
structure Reading where
  /-- The minutes, if the text has any. -/
  minutes : Option ℕ
  /-- The seconds. -/
  seconds : ℚ
  deriving DecidableEq

/-- The seconds of a reading altogether. -/
def Reading.amount (reading : Reading) : ℚ :=
  60 * (reading.minutes.getD 0 : ℕ) + reading.seconds

/-- The number that digits spell, with a point between two of them or without one. -/
def magnitude? (text : List Char) : Option ℚ :=
  let whole := text.takeWhile (· ≠ '.')
  let fraction := text.drop (whole.length + 1)
  (Number.ofDigits? 10 (whole ++ fraction)).map fun digits => (digits : ℚ) / 10 ^ fraction.length

/-- The seconds before their unit, with or without a sign. -/
def seconds? (text : List Char) : Option ℚ :=
  if text.getLast? = some 's' then
    let (negative, body) := Number.splitSign text.dropLast
    (magnitude? body).map fun magnitude => if negative then -magnitude else magnitude
  else none

/-- Reads the text of a duration: seconds, or minutes and then seconds. -/
def read? (text : String) : Option Reading :=
  let front := text.toList.takeWhile (· ≠ 'm')
  match text.toList.drop front.length with
  | [] => (seconds? front).map fun seconds => ⟨none, seconds⟩
  | 'm' :: ' ' :: rest =>
      match Number.ofDigits? 10 front, seconds? rest with
      | some minutes, some seconds => some ⟨some minutes, seconds⟩
      | _, _ => none
  | _ => none

example : read? "61m 1s" = some ⟨some 61, 1⟩ := by decide +kernel

theorem magnitude?_digitsOf (number : ℕ) : magnitude? (digitsOf number) = some (number : ℚ) := by
  rw [magnitude?, takeWhile_of_not_mem (not_mem_digitsOf rfl number), List.drop_eq_nil_of_le,
    List.append_nil, Number.ofDigits?_digitsOf]
  · simp
  · exact Nat.le_succ _

theorem magnitude?_tenths (tenths : ℕ) :
    magnitude? (digitsOf (tenths / 10) ++ '.' :: digitsOf (tenths % 10)) =
      some ((tenths : ℚ) / 10) := by
  have small : tenths % 10 < 10 := Nat.mod_lt _ (by decide)
  have single : (digitsOf (tenths % 10)).length = 1 := by
    rw [digitsOf, Nat.toDigits_of_lt_base small, List.length_singleton]
  have rest : (digitsOf (tenths / 10) ++ '.' :: digitsOf (tenths % 10)).drop
      ((digitsOf (tenths / 10)).length + 1) = digitsOf (tenths % 10) := by
    rw [← List.drop_drop, List.drop_left, List.drop_one, List.tail_cons]
  rw [magnitude?, takeWhile_append_cons (not_mem_digitsOf rfl _)]
  rw [rest, single, Number.ofDigits?_digitsOf_append _ small, Nat.div_add_mod, pow_one]
  rfl

/-- The text of a number of seconds ends in their unit, and starts with a sign or a digit. -/
theorem seconds?_append
    (negative : Bool)
    {body : List Char}
    (nonempty : body ≠ [])
    (isDigit : ∀ digit, body.head? = some digit → digit.isDigit = true) :
    seconds? ((if negative then ['-'] else []) ++ body ++ ['s']) =
      (magnitude? body).map fun magnitude => if negative then -magnitude else magnitude := by
  rw [seconds?, List.getLast?_concat, if_pos rfl, List.dropLast_concat]
  cases negative with
  | true => rfl
  | false =>
      obtain ⟨digit, rest, rfl⟩ := List.exists_cons_of_ne_nil nonempty
      have first : digit.isDigit = true := isDigit digit rfl
      have unsigned : Number.splitSign (digit :: rest) = (false, digit :: rest) := by
        unfold Number.splitSign
        split
        · rename_i same
          cases same
          exact absurd first (by decide)
        · rename_i same
          cases same
          exact absurd first (by decide)
        · rfl
      simp [unsigned]

/-- A number starts with a digit. -/
theorem isDigit_of_head?
    {number : ℕ}
    {digit : Char}
    (rest : List Char)
    (isFirst : (digitsOf number ++ rest).head? = some digit) :
    digit.isDigit = true := by
  rw [List.head?_append_of_ne_nil _ Nat.toDigits_ne_nil] at isFirst
  exact isDigit_of_mem_digitsOf (List.mem_of_head? isFirst)

theorem read?_tenthsText (negative : Bool) (tenths : ℕ) :
    read? (tenthsText negative tenths) =
      some ⟨none, if negative then -((tenths : ℚ) / 10) else (tenths : ℚ) / 10⟩ := by
  obtain ⟨body, isBody⟩ :
      ∃ body, body = digitsOf (tenths / 10) ++ '.' :: digitsOf (tenths % 10) := ⟨_, rfl⟩
  have text : (tenthsText negative tenths).toList =
      (if negative then ['-'] else []) ++ body ++ ['s'] := by
    cases negative <;> simp [tenthsText, isBody]
  have noMinutes : 'm' ∉ (tenthsText negative tenths).toList := by
    have noDigit (number : ℕ) : 'm' ∉ digitsOf number := not_mem_digitsOf rfl number
    rw [text, isBody]
    cases negative <;> simp [noDigit]
  have nonempty : body ≠ [] := by simp [isBody]
  have seconds := seconds?_append negative nonempty fun _ => isBody ▸ isDigit_of_head? _
  rw [isBody, magnitude?_tenths, Option.map_some, ← isBody, ← text] at seconds
  rw [read?, takeWhile_of_not_mem noMinutes, List.drop_length]
  simp only [seconds, Option.map_some]

theorem read?_minutesText (seconds : ℕ) :
    read? (minutesText seconds) = some ⟨some (seconds / 60), (seconds % 60 : ℕ)⟩ := by
  have text : (minutesText seconds).toList =
      digitsOf (seconds / 60) ++ 'm' :: ' ' :: (digitsOf (seconds % 60) ++ ['s']) := by
    simp [minutesText]
  have rest : seconds? (digitsOf (seconds % 60) ++ ['s']) = some ((seconds % 60 : ℕ) : ℚ) := by
    have isDigit (digit : Char) (isFirst : (digitsOf (seconds % 60)).head? = some digit) :
        digit.isDigit = true :=
      isDigit_of_mem_digitsOf (List.mem_of_head? isFirst)
    have read := seconds?_append false Nat.toDigits_ne_nil isDigit
    simpa [magnitude?_digitsOf] using read
  rw [read?, text, takeWhile_append_cons (not_mem_digitsOf rfl _), List.drop_left]
  simp only [Number.ofDigits?_digitsOf, rest]

/-! ## Durations and their readings -/

/-- Whether a reading is the one of a duration: the nearest tenth of a second below a minute, and the
whole seconds from there on. -/
inductive IsShown (duration : ℚ) : Reading → Prop where
  /-- Tenths of seconds. -/
  | tenths {tenths : ℕ} (short : duration < 60)
      (nearest : Number.IsNearest (10 * duration) tenths) :
      IsShown duration ⟨none, (tenths : ℚ) / 10⟩
  /-- Minutes and seconds. -/
  | minutes {seconds : ℕ} (long : 60 ≤ duration) (le : seconds ≤ duration)
      (lt : duration < seconds + 1) :
      IsShown duration ⟨some (seconds / 60), (seconds % 60 : ℕ)⟩

/-- The sign of nothing does not count when its text is read. -/
theorem read?_tenthsText_roundHalfEven
    {negative : Bool}
    {numerator denominator : ℕ}
    (positive : 0 < denominator)
    (nothing : negative = true → numerator = 0) :
    read? (tenthsText negative (Number.roundHalfEven (10 * numerator) denominator)) =
      some ⟨none, (Number.roundHalfEven (10 * numerator) denominator : ℚ) / 10⟩ := by
  rw [read?_tenthsText]
  cases negative with
  | false => rfl
  | true =>
      have noTenths := Number.roundHalfEven_mul_right 0 positive
      rw [zero_mul] at noTenths
      simp [nothing rfl, noTenths]

/-- The text of a quotient is read as its reading.  Only nothing may be negative. -/
theorem exists_isShown_textOfRatio
    {negative : Bool}
    {numerator denominator : ℕ}
    (positive : 0 < denominator)
    (nothing : negative = true → numerator = 0) :
    ∃ reading, read? (textOfRatio negative numerator denominator) = some reading ∧
      IsShown (numerator / denominator) reading := by
  have positiveToo : (0 : ℚ) < denominator := by exact_mod_cast positive
  unfold textOfRatio
  split
  · rename_i short
    have below : numerator < 60 * denominator :=
      short.elim (fun isNegative => by rw [nothing isNegative]; omega) id
    have nearest := Number.isNearest_roundHalfEven (10 * numerator) positive
    rw [Nat.cast_mul, Nat.cast_ofNat, mul_div_assoc] at nearest
    refine ⟨_, read?_tenthsText_roundHalfEven positive nothing, .tenths ?_ nearest⟩
    rw [div_lt_iff₀ positiveToo]
    exact_mod_cast below
  · rename_i long
    refine ⟨_, read?_minutesText _, .minutes ?_ ?_ ?_⟩
    · rw [le_div_iff₀ positiveToo]
      exact_mod_cast Nat.le_of_not_lt fun below => long (.inr below)
    · rw [le_div_iff₀ positiveToo]
      exact_mod_cast Nat.div_mul_le_self numerator denominator
    · rw [div_lt_iff₀ positiveToo]
      exact_mod_cast Nat.lt_mul_of_div_lt (Nat.lt_succ_self _) positive

/-- A whole number of seconds is shown as a quotient that is equal to it: as it is from a minute on,
and otherwise as a floating-point number, which it is turned into without a change. -/
theorem exists_textOfInt?_eq (seconds : ℕ) :
    ∃ scale, 0 < scale ∧
      textOfInt? seconds = some (textOfRatio false (seconds * scale) scale) := by
  by_cases long : 60 ≤ seconds
  · refine ⟨1, one_pos, ?_⟩
    have longToo : (60 : ℤ) ≤ seconds := by exact_mod_cast long
    have cutOff : ¬(false = true ∨ seconds * 1 < 60 * 1) := by simpa using long
    rw [textOfInt?, if_pos longToo, textOfRatio, if_neg cutOff, Int.toNat_natCast, mul_one,
      Nat.div_one]
  · refine ⟨Number.Binary64.one, Number.Binary64.one_pos, ?_⟩
    have short : ¬(60 : ℤ) ≤ seconds := by exact_mod_cast long
    have small : seconds < 2 ^ Number.Binary64.precision :=
      (Nat.lt_of_not_le long).trans (by decide)
    have rounded : Number.Binary64.ofInt seconds =
        .finite false (seconds * Number.Binary64.one) := by
      rw [Number.Binary64.ofInt, Int.natAbs_natCast, decide_eq_false (by omega),
        Number.Binary64.ofRatio_of_lt false small]
    rw [textOfInt?, if_neg short, rounded]
    rfl

/-! ## Accuracy, order and normal form -/

theorem amount_minutes (seconds : ℕ) :
    Reading.amount ⟨some (seconds / 60), (seconds % 60 : ℕ)⟩ = seconds := by
  change 60 * ((seconds / 60 : ℕ) : ℚ) + (seconds % 60 : ℕ) = seconds
  exact_mod_cast Nat.div_add_mod seconds 60

theorem amount_tenths (seconds : ℚ) : Reading.amount ⟨none, seconds⟩ = seconds := by
  rw [Reading.amount, Option.getD_none, Nat.cast_zero, mul_zero, zero_add]

theorem mod_sixty_lt (seconds : ℕ) : ((seconds % 60 : ℕ) : ℚ) < 60 := by
  exact_mod_cast Nat.mod_lt seconds (by decide)

/-- The whole seconds of a longer duration are no fewer. -/
theorem le_of_lt_succ
    {duration longer : ℚ}
    {first second : ℕ}
    (below : first ≤ duration)
    (le : duration ≤ longer)
    (above : longer < second + 1) :
    (first : ℚ) ≤ second := by
  have less : (first : ℚ) < second + 1 := (below.trans le).trans_lt above
  exact_mod_cast Nat.le_of_lt_succ (by exact_mod_cast less)

theorem sixty_le_of_lt_succ
    {duration : ℚ}
    {seconds : ℕ}
    (long : 60 ≤ duration)
    (above : duration < seconds + 1) :
    (60 : ℚ) ≤ seconds := by
  have atLeast : ((60 : ℕ) : ℚ) ≤ seconds := le_of_lt_succ long le_rfl above
  exact_mod_cast atLeast

/-- The tenths of a duration below a minute are at most those of a minute. -/
theorem tenths_le_of_lt
    {duration : ℚ}
    {tenths : ℕ}
    (short : duration < 60)
    (nearest : Number.IsNearest (10 * duration) tenths) :
    (tenths : ℚ) / 10 ≤ 60 := by
  have atMost : tenths ≤ 600 := nearest.le (Number.isNearest_cast 600) (by norm_num; linarith)
  have atMostToo : (tenths : ℚ) ≤ 600 := by exact_mod_cast atMost
  linarith

/-- The tenths are fewer than those of a minute unless the duration is just below it. -/
theorem tenths_lt_iff
    {duration : ℚ}
    {tenths : ℕ}
    (nearest : Number.IsNearest (10 * duration) tenths) :
    (tenths : ℚ) / 10 < 60 ↔ duration < 1199 / 20 := by
  constructor
  · intro few
    by_contra notLess
    -- Six hundred is even, and so the nearest one to itself less a half.
    have isNearest : Number.IsNearest (1199 / 2) 600 := by
      constructor
      · norm_num [abs_le]
      · exact fun _ => by decide
    have many : 600 ≤ tenths := isNearest.le nearest (by linarith [not_lt.mp notLess])
    have manyToo : (600 : ℚ) ≤ tenths := by exact_mod_cast many
    linarith
  · intro less
    obtain ⟨-, above⟩ := abs_le.mp nearest.near
    linarith

namespace IsShown

variable {duration longer : ℚ} {reading other : Reading}

/-- Below a minute there are no minutes, and the reading is at most half a tenth away. -/
theorem near_of_lt
    (isShown : IsShown duration reading)
    (short : duration < 60) :
    reading.minutes = none ∧ |reading.amount - duration| ≤ 1 / 20 := by
  cases isShown with
  | @tenths tenths _ nearest =>
      refine ⟨rfl, ?_⟩
      obtain ⟨below, above⟩ := abs_le.mp nearest.near
      rw [amount_tenths, abs_le]
      constructor <;> linarith
  | minutes long => exact absurd short long.not_gt

/-- From a minute on, less than a second is cut off, and the seconds are fewer than sixty. -/
theorem below_of_le
    (isShown : IsShown duration reading)
    (long : 60 ≤ duration) :
    reading.minutes ≠ none ∧ 0 ≤ duration - reading.amount ∧ duration - reading.amount < 1 ∧
      0 ≤ reading.seconds ∧ reading.seconds < 60 := by
  cases isShown with
  | tenths short => exact absurd short long.not_gt
  | @minutes seconds _ le lt =>
      rw [amount_minutes]
      refine ⟨Option.some_ne_none _, sub_nonneg.mpr le, sub_lt_iff_lt_add'.mpr lt, ?_, ?_⟩
      · exact Nat.cast_nonneg _
      · exact mod_sixty_lt seconds

/-- A longer duration has no shorter reading, on either side of the minute and across it. -/
theorem amount_le
    (isShown : IsShown duration reading)
    (isShownToo : IsShown longer other)
    (le : duration ≤ longer) :
    reading.amount ≤ other.amount := by
  cases isShown with
  | @tenths tenths short nearest =>
      rw [amount_tenths]
      cases isShownToo with
      | @tenths tenthsToo _ nearestToo =>
          have tenthsLe : (tenths : ℚ) ≤ tenthsToo := by
            exact_mod_cast nearest.le nearestToo (by linarith)
          rw [amount_tenths]
          linarith
      | @minutes seconds long _ lt =>
          rw [amount_minutes]
          exact (tenths_le_of_lt short nearest).trans (sixty_le_of_lt_succ long lt)
  | @minutes seconds long below _ =>
      rw [amount_minutes]
      cases isShownToo with
      | tenths short => exact absurd (long.trans le) short.not_ge
      | @minutes secondsToo _ _ lt =>
          rw [amount_minutes]
          exact le_of_lt_succ below le lt

/-- The seconds are fewer than sixty unless the duration is just below a minute. -/
theorem seconds_lt_iff (isShown : IsShown duration reading) :
    reading.seconds < 60 ↔ ¬(1199 / 20 ≤ duration ∧ duration < 60) := by
  cases isShown with
  | tenths short nearest =>
      rw [and_iff_left short, not_le]
      exact tenths_lt_iff nearest
  | @minutes seconds long =>
      exact iff_of_true (mod_sixty_lt seconds) fun gap => absurd gap.2 long.not_gt

/-- Sixty seconds stand without minutes. -/
theorem eq_of_not_lt
    (isShown : IsShown duration reading)
    (notFew : ¬reading.seconds < 60) :
    reading = ⟨none, 60⟩ := by
  cases isShown with
  | tenths short nearest =>
      rw [(tenths_le_of_lt short nearest).antisymm (not_lt.mp notFew)]
  | minutes => exact absurd (mod_sixty_lt _) notFew

/-- One amount has one reading with fewer than sixty seconds. -/
theorem eq_of_amount
    (isShown : IsShown duration reading)
    (isShownToo : IsShown longer other)
    (few : reading.seconds < 60)
    (fewToo : other.seconds < 60)
    (same : other.amount = reading.amount) :
    other = reading := by
  cases isShown with
  | tenths =>
      rw [amount_tenths] at same
      cases isShownToo with
      | tenths =>
          rw [amount_tenths] at same
          rw [same]
      | minutes long _ lt =>
          rw [amount_minutes] at same
          exact absurd (same ▸ sixty_le_of_lt_succ long lt) few.not_ge
  | minutes long _ lt =>
      rw [amount_minutes] at same
      cases isShownToo with
      | tenths =>
          rw [amount_tenths] at same
          exact absurd (same ▸ sixty_le_of_lt_succ long lt) fewToo.not_ge
      | minutes =>
          rw [amount_minutes] at same
          rw [Nat.cast_injective same]

end IsShown
end Duration

/-! ## Numbers of seconds -/

namespace Seconds

/-- The value of a finite number of seconds. -/
def value? : Seconds → Option ℚ
  | whole value => some value
  | binary (.finite negative units) =>
      some (Number.Binary64.signedUnits negative units / Number.Binary64.one)
  | binary _ => none

/-- The text of a number of seconds as a duration. -/
def durationText? : Seconds → Option String
  | whole value => Duration.textOfInt? value
  | binary value => some (Duration.text value)

/-- What the text of a number of seconds says. -/
def reading? (seconds : Seconds) : Option Duration.Reading :=
  seconds.durationText?.bind Duration.read?

/-- A number of seconds that is not negative is shown as a quotient that is equal to it.  Nothing may
have a sign. -/
theorem exists_durationText?_eq
    {given : Seconds}
    {duration : ℚ}
    (isValue : given.value? = some duration)
    (notNegative : 0 ≤ duration) :
    ∃ negative numerator denominator, 0 < denominator ∧ (negative = true → numerator = 0) ∧
      given.durationText? = some (Duration.textOfRatio negative numerator denominator) ∧
      duration = numerator / denominator := by
  cases given with
  | whole value =>
      obtain rfl : (value : ℚ) = duration := Option.some_inj.mp isValue
      obtain ⟨seconds, rfl⟩ := Int.eq_ofNat_of_zero_le (Int.cast_nonneg_iff.mp notNegative)
      obtain ⟨scale, positive, isText⟩ := Duration.exists_textOfInt?_eq seconds
      have notZero : (scale : ℚ) ≠ 0 := by exact_mod_cast positive.ne'
      refine ⟨false, seconds * scale, scale, positive, nofun, isText, ?_⟩
      rw [Nat.cast_mul, mul_div_cancel_right₀ _ notZero, Int.cast_natCast]
  | binary value =>
      cases value with
      | infinite | nan => cases isValue
      | finite negative units =>
          obtain rfl := Option.some_inj.mp isValue
          have positive : (0 : ℚ) < Number.Binary64.one := by
            exact_mod_cast Number.Binary64.one_pos
          cases negative with
          | false => exact ⟨false, units, _, Number.Binary64.one_pos, nofun, rfl, rfl⟩
          | true =>
              have opposite : (0 : ℚ) ≤ -(units : ℚ) := by
                rw [le_div_iff₀ positive, zero_mul] at notNegative
                simpa [Number.Binary64.signedUnits] using notNegative
              have zero : units = 0 := by
                have atMost : (units : ℚ) ≤ 0 := neg_nonneg.mp opposite
                exact_mod_cast atMost.antisymm (Nat.cast_nonneg units)
              subst zero
              have noUnits : Number.Binary64.signedUnits true 0 = 0 := rfl
              refine ⟨true, 0, _, Number.Binary64.one_pos, fun _ => rfl, rfl, ?_⟩
              rw [noUnits, Int.cast_zero, Nat.cast_zero]

theorem exists_isShown
    {given : Seconds}
    {duration : ℚ}
    (isValue : given.value? = some duration)
    (notNegative : 0 ≤ duration) :
    ∃ reading, given.reading? = some reading ∧ Duration.IsShown duration reading := by
  obtain ⟨negative, numerator, denominator, positive, nothing, isText, rfl⟩ :=
    exists_durationText?_eq isValue notNegative
  rw [reading?, isText]
  exact Duration.exists_isShown_textOfRatio positive nothing

/-- Durations are shown accurately and in order.  Below a minute the reading is at most half a tenth
of a second away; from a minute on less than a second is cut off, and fewer than sixty seconds stand
beside the minutes.  A longer duration never has a shorter reading. -/
theorem shown_near_and_ordered
    {given : Seconds}
    {duration : ℚ}
    (isValue : given.value? = some duration)
    (notNegative : 0 ≤ duration) :
    ∃ reading, given.reading? = some reading ∧
      (duration < 60 → reading.minutes = none ∧ |reading.amount - duration| ≤ 1 / 20) ∧
      (60 ≤ duration → reading.minutes ≠ none ∧
        0 ≤ duration - reading.amount ∧ duration - reading.amount < 1 ∧
        0 ≤ reading.seconds ∧ reading.seconds < 60) ∧
      ∀ (other : Seconds) (longer : ℚ), other.value? = some longer → duration ≤ longer →
        ∃ readingToo, other.reading? = some readingToo ∧ reading.amount ≤ readingToo.amount := by
  obtain ⟨reading, isRead, isShown⟩ := exists_isShown isValue notNegative
  refine ⟨reading, isRead, isShown.near_of_lt, isShown.below_of_le, ?_⟩
  intro other longer isValueToo le
  obtain ⟨readingToo, isReadToo, isShownToo⟩ := exists_isShown isValueToo (notNegative.trans le)
  exact ⟨readingToo, isReadToo, isShown.amount_le isShownToo le⟩

/-- The number 59.96875, which is rounded up to a minute. -/
def nearMinute : Seconds :=
  binary (.finite false (1919 * 2 ^ 1069))

theorem value?_nearMinute : nearMinute.value? = some (1919 / 32) := by
  decide +kernel

theorem shown_near_and_ordered_nearMinute :
    ∃ reading, nearMinute.reading? = some reading ∧
      reading.minutes = none ∧ |reading.amount - 1919 / 32| ≤ 1 / 20 ∧
      ∃ readingToo, (whole 60).reading? = some readingToo ∧
        reading.amount ≤ readingToo.amount := by
  obtain ⟨reading, isRead, near, -, ordered⟩ :=
    shown_near_and_ordered value?_nearMinute (by norm_num)
  obtain ⟨noMinutes, close⟩ := near (by norm_num)
  exact ⟨reading, isRead, noMinutes, close, ordered (whole 60) 60 rfl (by norm_num)⟩

/-- A duration is shown with fewer than sixty seconds unless it is below a minute by half a tenth of a
second or less, when it is shown with sixty.  One amount that is shown with fewer than sixty seconds
is shown in one way. -/
theorem shown_normal_iff
    {given : Seconds}
    {duration : ℚ}
    (isValue : given.value? = some duration)
    (notNegative : 0 ≤ duration) :
    ∃ reading, given.reading? = some reading ∧
      (reading.seconds < 60 ↔ ¬(1199 / 20 ≤ duration ∧ duration < 60)) ∧
      (¬reading.seconds < 60 → reading = ⟨none, 60⟩) ∧
      ∀ (other : Seconds) (otherDuration : ℚ) (otherReading : Duration.Reading),
        other.value? = some otherDuration → 0 ≤ otherDuration →
        other.reading? = some otherReading →
        reading.seconds < 60 → otherReading.seconds < 60 →
        otherReading.amount = reading.amount → otherReading = reading := by
  obtain ⟨reading, isRead, isShown⟩ := exists_isShown isValue notNegative
  refine ⟨reading, isRead, isShown.seconds_lt_iff, isShown.eq_of_not_lt, ?_⟩
  intro other otherDuration otherReading isValueToo notNegativeToo isReadToo few fewToo same
  obtain ⟨_, isReadAgain, isShownToo⟩ := exists_isShown isValueToo notNegativeToo
  obtain rfl := Option.some_inj.mp (isReadToo.symm.trans isReadAgain)
  exact isShown.eq_of_amount isShownToo few fewToo same

theorem shown_normal_iff_minute :
    ∃ reading, (whole 60).reading? = some reading ∧ reading.seconds < 60 := by
  have isValue : (whole 60).value? = some 60 := rfl
  obtain ⟨reading, isRead, few, -⟩ := shown_normal_iff isValue (by norm_num)
  exact ⟨reading, isRead, few.mpr (by norm_num)⟩

/-- One amount is shown without minutes and with them. -/
theorem not_shown_normal_nearMinute :
    nearMinute.value? = some (1919 / 32) ∧
      nearMinute.durationText? = some "60.0s" ∧ (whole 60).durationText? = some "1m 0s" ∧
      nearMinute.reading? = some ⟨none, 60⟩ ∧ (whole 60).reading? = some ⟨some 1, 0⟩ ∧
      ¬(60 : ℚ) < 60 ∧ Duration.Reading.amount ⟨none, 60⟩ = Duration.Reading.amount ⟨some 1, 0⟩ := by
  decide +kernel

end Seconds

/-! ## Durations of executions -/

namespace CommandLine

/-- The duration of an execution is shown as any other one. -/
theorem exists_isShown_durationText (microseconds : ℕ) :
    ∃ reading, Duration.read? (durationText microseconds) = some reading ∧
      Duration.IsShown (microseconds / (1000000 : ℕ)) reading :=
  Duration.exists_isShown_textOfRatio (by decide) nofun

end CommandLine
end Snippets
