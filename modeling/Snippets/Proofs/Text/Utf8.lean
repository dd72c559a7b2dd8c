import Snippets.Text.Utf8

/-!
# Bytes that encode a text

Bytes are decoded exactly if they are the encoding of a text, and then as that text.  The
encoding is the one of the standard library.
-/

namespace Snippets
namespace Text

/-! ## One character -/

/-- The number of a character that is given by its number. -/
theorem toNat_ofNat_of_isValidChar
    {code : Nat}
    (valid : code.isValidChar) :
    (Char.ofNat code).toNat = code := by
  rw [Char.ofNat, dif_pos valid]
  rfl

theorem continuation?_eq_some_iff
    {byte : UInt8}
    {low : Nat} :
    continuation? byte = some low ↔ byte.toNat = 0x80 + low ∧ low < 0x40 := by
  unfold continuation?
  split
  · rw [Option.some.injEq]
    omega
  · simp only [reduceCtorEq, false_iff]
    omega

/-- A code point in a range below the last one is that of one character. -/
theorem charIn?_eq_some_iff
    {first last code : Nat}
    {character : Char}
    (within : last ≤ 0x10FFFF) :
    charIn? first last code = some character ↔
      character.toNat = code ∧ first ≤ code ∧ code ≤ last := by
  unfold charIn?
  constructor
  · intro found
    split at found
    · rename_i suits
      obtain ⟨least, greatest, noSurrogate⟩ := suits
      have valid : code.isValidChar := by
        simp only [isSurrogate, Bool.not_eq_true', Bool.and_eq_false_iff, decide_eq_false_iff_not]
          at noSurrogate
        unfold Nat.isValidChar
        omega
      exact ⟨Option.some.inj found ▸ toNat_ofNat_of_isValidChar valid, least, greatest⟩
    · cases found
  · rintro ⟨rfl, least, greatest⟩
    have valid : character.toNat.isValidChar := character.valid
    have noSurrogate : (!isSurrogate character.toNat) = true := by
      unfold Nat.isValidChar at valid
      simp only [isSurrogate, Bool.not_eq_true', Bool.and_eq_false_iff, decide_eq_false_iff_not]
      omega
    rw [if_pos ⟨least, greatest, noSurrogate⟩, Char.ofNat_toNat]

section

variable {character : Char}

theorem encodeChar_of_one (one : character.toNat < 0x80) :
    encodeChar character = [character.toNat.toUInt8] :=
  if_pos one

theorem encodeChar_of_two
    (notOne : ¬character.toNat < 0x80)
    (two : character.toNat < 0x800) :
    encodeChar character =
      [(0xC0 + character.toNat / 64).toUInt8, (0x80 + character.toNat % 64).toUInt8] :=
  (if_neg notOne).trans (if_pos two)

theorem encodeChar_of_three
    (notTwo : ¬character.toNat < 0x800)
    (three : character.toNat < 0x10000) :
    encodeChar character =
      [(0xE0 + character.toNat / 4096).toUInt8, (0x80 + character.toNat / 64 % 64).toUInt8,
       (0x80 + character.toNat % 64).toUInt8] :=
  (if_neg (by omega)).trans ((if_neg notTwo).trans (if_pos three))

theorem encodeChar_of_four (notThree : ¬character.toNat < 0x10000) :
    encodeChar character =
      [(0xF0 + character.toNat / 262144).toUInt8, (0x80 + character.toNat / 4096 % 64).toUInt8,
       (0x80 + character.toNat / 64 % 64).toUInt8, (0x80 + character.toNat % 64).toUInt8] :=
  (if_neg (by omega)).trans ((if_neg (by omega)).trans (if_neg notThree))

end

/-- A character is encoded as the standard library encodes it. -/
theorem encodeChar_eq (character : Char) :
    encodeChar character = String.utf8EncodeChar character := by
  have valid : character.toNat.isValidChar := character.valid
  unfold Nat.isValidChar at valid
  have shown : character.val.toNat = character.toNat := rfl
  simp only [String.utf8EncodeChar, shown, ← Nat.toUInt8_eq, Nat.le_iff_lt_add_one,
    Nat.reduceAdd]
  by_cases one : character.toNat < 0x80
  · rw [encodeChar_of_one one, if_pos one]
  by_cases two : character.toNat < 0x800
  · rw [encodeChar_of_two one two, if_neg one, if_pos two,
      Nat.mod_eq_of_lt (b := 0x20) (by omega), Nat.add_comm 0xC0, Nat.add_comm 0x80]
  by_cases three : character.toNat < 0x10000
  · rw [encodeChar_of_three two three, if_neg one, if_neg two, if_pos three,
      Nat.mod_eq_of_lt (b := 0x10) (by omega), Nat.add_comm 0xE0, Nat.add_comm 0x80,
      Nat.add_comm 0x80]
  · rw [encodeChar_of_four three, if_neg one, if_neg two, if_neg three,
      Nat.mod_eq_of_lt (b := 0x08) (by omega), Nat.add_comm 0xF0, Nat.add_comm 0x80,
      Nat.add_comm 0x80, Nat.add_comm 0x80]

/-- The number of a byte that is given by its number. -/
theorem toNat_toUInt8
    {number : Nat}
    (small : number < 256) :
    number.toUInt8.toNat = number := by
  rw [Nat.toUInt8_eq, UInt8.toNat_ofNat', Nat.mod_eq_of_lt small]

theorem toUInt8_of_eq_toNat
    (byte : UInt8)
    {number : Nat}
    (same : number = byte.toNat) :
    number.toUInt8 = byte := by
  rw [same, Nat.toUInt8_eq, UInt8.ofNat_toNat]

theorem continuation?_toUInt8
    {low : Nat}
    (small : low < 64) :
    continuation? (0x80 + low).toUInt8 = some low :=
  continuation?_eq_some_iff.mpr ⟨toNat_toUInt8 (by omega), small⟩

/-- A character is decoded from its bytes. -/
theorem decodeFrom_encodeChar
    (result : List Char)
    (character : Char)
    (rest : List UInt8) :
    decodeFrom result (encodeChar character ++ rest) = decodeFrom (character :: result) rest := by
  have valid : character.toNat.isValidChar := character.valid
  unfold Nat.isValidChar at valid
  have found {first last code : Nat} (within : last ≤ 0x10FFFF)
      (same : character.toNat = code ∧ first ≤ code ∧ code ≤ last) :
      charIn? first last code = some character := (charIn?_eq_some_iff within).mpr same
  by_cases one : character.toNat < 0x80
  · -- The equations of the decoder tell whether a second byte follows, which is open here.
    rw [encodeChar_of_one one, List.singleton_append, decodeFrom.eq_def]
    dsimp only
    rw [toNat_toUInt8 (by omega), if_pos one, Char.ofNat_toNat]
  by_cases two : character.toNat < 0x800
  · rw [encodeChar_of_two one two, List.cons_append, List.singleton_append, decodeFrom,
      toNat_toUInt8 (by omega), if_neg (by omega), if_neg (by omega), if_pos (by omega),
      continuation?_toUInt8 (by omega)]
    dsimp only
    rw [found (by decide) (by omega)]
  by_cases three : character.toNat < 0x10000
  · rw [encodeChar_of_three two three, List.cons_append, List.cons_append,
      List.singleton_append, decodeFrom]
    dsimp only
    rw [toNat_toUInt8 (by omega), if_neg (by omega), if_neg (by omega), if_neg (by omega),
      if_pos (by omega), continuation?_toUInt8 (by omega), continuation?_toUInt8 (by omega)]
    dsimp only
    rw [found (by decide) (by omega)]
  · rw [encodeChar_of_four three, List.cons_append, List.cons_append, List.cons_append,
      List.singleton_append, decodeFrom]
    dsimp only
    rw [toNat_toUInt8 (by omega), if_neg (by omega), if_neg (by omega), if_neg (by omega),
      if_neg (by omega), continuation?_toUInt8 (by omega), continuation?_toUInt8 (by omega),
      continuation?_toUInt8 (by omega)]
    dsimp only
    rw [found (by decide) (by omega)]

/-! ## Whole texts -/

theorem encodeUtf8_cons
    (character : Char)
    (text : List Char) :
    encodeUtf8 (character :: text) = encodeChar character ++ encodeUtf8 text :=
  List.flatMap_cons

/-- A text is read before what follows it. -/
theorem decodeFrom_encodeUtf8_append
    (result text : List Char)
    (rest : List UInt8) :
    decodeFrom result (encodeUtf8 text ++ rest) = decodeFrom (text.reverse ++ result) rest := by
  induction text generalizing result with
  | nil => rfl
  | cons character text inductionHypothesis =>
      rw [encodeUtf8_cons, List.append_assoc, decodeFrom_encodeChar, inductionHypothesis,
        List.reverse_cons, List.append_assoc, List.singleton_append]

/-- Every text is decoded from its bytes. -/
theorem decodeFrom_encodeUtf8
    (result text : List Char) :
    decodeFrom result (encodeUtf8 text) = some (result.reverse ++ text) := by
  rw [← List.append_nil (encodeUtf8 text), decodeFrom_encodeUtf8_append, decodeFrom,
    List.reverse_append, List.reverse_reverse]

/-- A text is what bytes encode that follow those of one more character, if it is what the
rest of them encodes with the character read. -/
theorem exists_encodeUtf8_of_encodeChar
    {result text : List Char}
    {character : Char}
    (start : List UInt8)
    {rest : List UInt8}
    (encoded : encodeChar character = start)
    (read : ∃ later, text = (character :: result).reverse ++ later ∧ encodeUtf8 later = rest) :
    ∃ later, text = result.reverse ++ later ∧ encodeUtf8 later = start ++ rest := by
  obtain ⟨later, rfl, rfl⟩ := read
  refine ⟨character :: later, ?_, ?_⟩
  · rw [List.reverse_cons, List.append_assoc, List.singleton_append]
  · rw [encodeUtf8_cons, encoded]

/-- Bytes that are decoded are the encoding of what they are decoded as. -/
theorem exists_encodeUtf8_of_decodeFrom
    {result text : List Char}
    {bytes : List UInt8}
    (decoded : decodeFrom result bytes = some text) :
    ∃ later, text = result.reverse ++ later ∧ encodeUtf8 later = bytes := by
  fun_induction decodeFrom result bytes with
  | case1 result =>
      exact ⟨[], (Option.some.inj decoded).symm.trans (List.append_nil _).symm, rfl⟩
  | case2 result first rest lead one inductionHypothesis =>
      refine exists_encodeUtf8_of_encodeChar [first] ?_ (inductionHypothesis decoded)
      have lead_eq : lead = first.toNat := rfl
      have same : (Char.ofNat lead).toNat = lead := toNat_ofNat_of_isValidChar (.inl (by omega))
      rw [encodeChar_of_one (by omega), same, toUInt8_of_eq_toNat first lead_eq]
  | case4 result first lead notOne least two second rest low hLow character hChar
      inductionHypothesis =>
      refine exists_encodeUtf8_of_encodeChar [first, second] ?_ (inductionHypothesis decoded)
      have lead_eq : lead = first.toNat := rfl
      obtain ⟨low_eq, low_lt⟩ := continuation?_eq_some_iff.mp hLow
      obtain ⟨same, within⟩ := (charIn?_eq_some_iff (by decide)).mp hChar
      rw [encodeChar_of_two (by omega) (by omega), same, toUInt8_of_eq_toNat first (by omega),
        toUInt8_of_eq_toNat second (by omega)]
  | case8 result first lead notOne least notTwo three second third rest middle low hLow hMiddle
      character hChar inductionHypothesis =>
      refine exists_encodeUtf8_of_encodeChar [first, second, third] ?_
        (inductionHypothesis decoded)
      have lead_eq : lead = first.toNat := rfl
      obtain ⟨low_eq, low_lt⟩ := continuation?_eq_some_iff.mp hLow
      obtain ⟨middle_eq, middle_lt⟩ := continuation?_eq_some_iff.mp hMiddle
      obtain ⟨same, within⟩ := (charIn?_eq_some_iff (by decide)).mp hChar
      rw [encodeChar_of_three (by omega) (by omega), same, toUInt8_of_eq_toNat first (by omega),
        toUInt8_of_eq_toNat second (by omega),
        toUInt8_of_eq_toNat third (by omega)]
  | case12 result first lead notOne least notTwo notThree second third fourth rest high middle low
      hLow hMiddle hHigh character hChar inductionHypothesis =>
      refine exists_encodeUtf8_of_encodeChar [first, second, third, fourth] ?_
        (inductionHypothesis decoded)
      have lead_eq : lead = first.toNat := rfl
      obtain ⟨low_eq, low_lt⟩ := continuation?_eq_some_iff.mp hLow
      obtain ⟨middle_eq, middle_lt⟩ := continuation?_eq_some_iff.mp hMiddle
      obtain ⟨high_eq, high_lt⟩ := continuation?_eq_some_iff.mp hHigh
      obtain ⟨same, within⟩ := (charIn?_eq_some_iff (by decide)).mp hChar
      rw [encodeChar_of_four (by omega), same, toUInt8_of_eq_toNat first (by omega),
        toUInt8_of_eq_toNat second (by omega),
        toUInt8_of_eq_toNat third (by omega),
        toUInt8_of_eq_toNat fourth (by omega)]
  | _ => cases decoded

/-- Bytes encode a text exactly if they are decoded as it. -/
theorem decodeUtf8_eq_some_iff
    {bytes : List UInt8}
    {text : List Char} :
    decodeUtf8 bytes = some text ↔ encodeUtf8 text = bytes := by
  constructor
  · intro decoded
    obtain ⟨later, rfl, encoded⟩ := exists_encodeUtf8_of_decodeFrom decoded
    exact encoded
  · rintro rfl
    exact decodeFrom_encodeUtf8 [] text

/-- A text is encoded as the standard library encodes it. -/
theorem encodeUtf8_toList (text : String) :
    encodeUtf8 text.toList = text.toUTF8.data.toList := by
  rw [String.toUTF8_eq_toByteArray, ← String.utf8Encode_toList, List.utf8Encode,
    List.toList_data_toByteArray, encodeUtf8, funext encodeChar_eq]

/-- Bytes are decoded as a text exactly if the standard library encodes it as them. -/
theorem decodeUtf8_eq_toList_iff
    {bytes : List UInt8}
    {text : String} :
    decodeUtf8 bytes = some text.toList ↔ text.toUTF8.data.toList = bytes := by
  rw [decodeUtf8_eq_some_iff, encodeUtf8_toList]

end Text
end Snippets
