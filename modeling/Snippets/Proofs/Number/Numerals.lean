import Mathlib.Data.List.Basic
import Snippets.Number.Reading

/-!
# Decimal numerals

A whole number is written in decimal digits, a negative one with a sign before them.  No other
character is in a numeral, and the number is read back from it.
-/

namespace Snippets
namespace Number

/-! ## Digits -/

/-- The digits of a whole number. -/
abbrev digitsOf (number : Nat) : List Char :=
  Nat.toDigits 10 number

theorem isDigit_of_mem_digitsOf
    {number : Nat}
    {character : Char}
    (present : character ∈ digitsOf number) :
    character.isDigit = true :=
  Nat.isDigit_of_mem_toDigits (by decide) (by decide) present

theorem not_mem_digitsOf
    {character : Char}
    (noDigit : character.isDigit = false)
    (number : Nat) :
    character ∉ digitsOf number :=
  fun present => Bool.false_ne_true (noDigit.symm.trans (isDigit_of_mem_digitsOf present))

theorem digitsOf_inj {first second : Nat} : digitsOf first = digitsOf second ↔ first = second := by
  refine ⟨fun same => ?_, congrArg digitsOf⟩
  have read := congrArg (fun digits => Nat.ofDigitChars 10 digits 0) same
  simpa only [Nat.ofDigitChars_ten_toDigits] using read

theorem digitValue_of_isDigit
    {digit : Char}
    (isDigit : digit.isDigit = true) :
    digitValue digit = digit.toNat - '0'.toNat ∧ digitValue digit < 10 := by
  rw [Char.isDigit_iff_toNat] at isDigit
  have value : digitValue digit = digit.toNat - '0'.toNat := if_pos isDigit
  have greatest : '9'.toNat = '0'.toNat + 9 := rfl
  exact ⟨value, by omega⟩

/-- Digits are read from the left to the right. -/
theorem ofDigits?_of_isDigit
    {digits : List Char}
    (nonempty : digits ≠ [])
    (areDigits : ∀ digit ∈ digits, digit.isDigit = true) :
    ofDigits? 10 digits = some (Nat.ofDigitChars 10 digits 0) := by
  have small : digits.all (fun digit => digitValue digit < 10) = true :=
    List.all_eq_true.mpr fun digit present =>
      decide_eq_true (digitValue_of_isDigit (areDigits digit present)).2
  rw [ofDigits?, if_pos ⟨nonempty, small⟩, ofDigits, Nat.ofDigitChars_eq_foldl, Option.some_inj]
  refine List.foldl_ext _ _ _ fun value digit present => ?_
  rw [(digitValue_of_isDigit (areDigits digit present)).1, Nat.mul_comm]

theorem ofDigits?_digitsOf (number : Nat) : ofDigits? 10 (digitsOf number) = some number := by
  rw [ofDigits?_of_isDigit Nat.toDigits_ne_nil fun _ => isDigit_of_mem_digitsOf,
    Nat.ofDigitChars_ten_toDigits]

/-- One more digit makes ten times the number, and the digit. -/
theorem ofDigits?_digitsOf_append
    (front : Nat)
    {last : Nat}
    (small : last < 10) :
    ofDigits? 10 (digitsOf front ++ digitsOf last) = some (10 * front + last) := by
  have nonempty : digitsOf front ++ digitsOf last ≠ [] := by simp [digitsOf, Nat.toDigits_ne_nil]
  rw [ofDigits?_of_isDigit nonempty, Nat.ofDigitChars_append, Nat.ofDigitChars_ten_toDigits,
    digitsOf, Nat.toDigits_of_lt_base small, Nat.ofDigitChars_cons_digitChar_of_lt_ten small,
    Nat.ofDigitChars_nil]
  intro digit present
  rcases List.mem_append.mp present with first | second
  · exact isDigit_of_mem_digitsOf first
  · exact isDigit_of_mem_digitsOf second

/-! ## Signs -/

theorem toList_repr (number : Int) :
    number.repr.toList =
      if 0 ≤ number then digitsOf number.toNat else '-' :: digitsOf (-number).toNat := by
  rw [Int.repr_eq_if]
  split <;> simp [Nat.repr_eq_ofList_toDigits]

/-- A number is written in digits, with a sign before them if it is negative. -/
theorem isDigit_or_of_mem_repr
    {number : Int}
    {character : Char}
    (present : character ∈ number.repr.toList) :
    character.isDigit = true ∨ character = '-' := by
  rw [toList_repr] at present
  split at present
  · exact .inl (isDigit_of_mem_digitsOf present)
  · exact (List.mem_cons.mp present).symm.imp_left isDigit_of_mem_digitsOf

theorem not_mem_repr
    {character : Char}
    (noDigit : character.isDigit = false)
    (noSign : character ≠ '-')
    (number : Int) :
    character ∉ number.repr.toList := by
  intro present
  rcases isDigit_or_of_mem_repr present with digit | sign
  · exact Bool.false_ne_true (noDigit.symm.trans digit)
  · exact noSign sign

/-- Different numbers are written in different ways. -/
theorem repr_inj {first second : Int} : first.repr = second.repr ↔ first = second := by
  refine ⟨fun same => ?_, congrArg Int.repr⟩
  have noSign (number : Nat) : '-' ∉ digitsOf number := not_mem_digitsOf rfl number
  have written := congrArg String.toList same
  rw [toList_repr, toList_repr] at written
  split at written <;> split at written
  · have sameSize := digitsOf_inj.mp written
    omega
  · exact absurd (written ▸ List.mem_cons_self) (noSign first.toNat)
  · exact absurd (written ▸ List.mem_cons_self) (noSign second.toNat)
  · have sameSize := digitsOf_inj.mp (List.cons.inj written).2
    omega

end Number
end Snippets
