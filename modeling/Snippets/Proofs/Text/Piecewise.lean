import Snippets.Text.Piecewise
import Snippets.Proofs.Text.Cutting
import Snippets.Proofs.Text.Utf8

/-!
# What is seen of a text that is read in pieces

However a file is cut into pieces, the text that has been read of it is a start of its text, as
long as all of it encodes one.  What stands behind the last piece makes no difference: a file
that is read to its end has to encode a text, and one that is not may hold anything there.
-/

namespace Snippets
namespace Text

/-! ## Characters that are cut apart -/

section

variable (lead : Nat)

theorem trail?_of_two (least : 0xC2 ≤ lead) (greatest : lead < 0xE0) :
    trail? lead = some (1, 0x80, 0xBF) := by
  rw [trail?, if_neg (by omega), if_pos greatest]

theorem trail?_of_three (least : 0xE0 ≤ lead) (greatest : lead < 0xF0) :
    trail? lead =
      some (2, if lead = 0xE0 then 0xA0 else 0x80, if lead = 0xED then 0x9F else 0xBF) := by
  rw [trail?, if_neg (by omega), if_neg (by omega), if_pos greatest]

theorem trail?_of_four (least : 0xF0 ≤ lead) (greatest : lead < 0xF5) :
    trail? lead =
      some (3, if lead = 0xF0 then 0x90 else 0x80, if lead = 0xF4 then 0x8F else 0xBF) := by
  rw [trail?, if_neg (by omega), if_neg (by omega), if_neg (by omega), if_pos greatest]

end

theorem isStart_singleton
    {lead : UInt8}
    {count least greatest : Nat}
    (trail : trail? lead.toNat = some (count, least, greatest))
    (more : 0 < count) :
    isStart [lead] = true := by
  simp [isStart, trail, trailLength, more]

theorem isStart_pair
    {lead second : UInt8}
    {count least greatest : Nat}
    (trail : trail? lead.toNat = some (count, least, greatest))
    (more : 1 < count)
    (within : least ≤ second.toNat ∧ second.toNat ≤ greatest) :
    isStart [lead, second] = true := by
  simp [isStart, trail, trailLength, more, within]

theorem isStart_triple
    {lead second third : UInt8}
    {least greatest : Nat}
    (trail : trail? lead.toNat = some (3, least, greatest))
    (within : least ≤ second.toNat ∧ second.toNat ≤ greatest)
    (continues : (continuation? third).isSome) :
    isStart [lead, second, third] = true := by
  simp [isStart, trail, trailLength, within, continues]

/-- The first bytes of a character, without its last one, are the start of one. -/
theorem isStart_take_encodeChar
    (character : Char)
    {size : Nat}
    (short : size < (encodeChar character).length) :
    isStart ((encodeChar character).take size) = true := by
  have valid : character.toNat.isValidChar := character.valid
  unfold Nat.isValidChar at valid
  by_cases one : character.toNat < 0x80
  · rw [encodeChar_of_one one] at short ⊢
    obtain rfl : size = 0 := by simpa using short
    rfl
  by_cases two : character.toNat < 0x800
  · rw [encodeChar_of_two one two] at short ⊢
    have trail := trail?_of_two ((0xC0 + character.toNat / 64).toUInt8.toNat)
      (by rw [toNat_toUInt8] <;> omega) (by rw [toNat_toUInt8] <;> omega)
    match size, short with
    | 0, _ => rfl
    | 1, _ => exact isStart_singleton trail (by decide)
  by_cases three : character.toNat < 0x10000
  · rw [encodeChar_of_three two three] at short ⊢
    have trail := trail?_of_three ((0xE0 + character.toNat / 4096).toUInt8.toNat)
      (by rw [toNat_toUInt8] <;> omega) (by rw [toNat_toUInt8] <;> omega)
    match size, short with
    | 0, _ => rfl
    | 1, _ => exact isStart_singleton trail (by decide)
    | 2, _ =>
        refine isStart_pair trail (by decide) ?_
        rw [toNat_toUInt8 (by omega), toNat_toUInt8 (by omega)]
        constructor <;> split <;> omega
  · rw [encodeChar_of_four three] at short ⊢
    have trail := trail?_of_four ((0xF0 + character.toNat / 262144).toUInt8.toNat)
      (by rw [toNat_toUInt8] <;> omega) (by rw [toNat_toUInt8] <;> omega)
    have within : (if (0xF0 + character.toNat / 262144).toUInt8.toNat = 0xF0 then 0x90 else 0x80) ≤
          (0x80 + character.toNat / 4096 % 64).toUInt8.toNat ∧
        (0x80 + character.toNat / 4096 % 64).toUInt8.toNat ≤
          if (0xF0 + character.toNat / 262144).toUInt8.toNat = 0xF4 then 0x8F else 0xBF := by
      rw [toNat_toUInt8 (by omega), toNat_toUInt8 (by omega)]
      constructor <;> split <;> omega
    match size, short with
    | 0, _ => rfl
    | 1, _ => exact isStart_singleton trail (by decide)
    | 2, _ => exact isStart_pair trail (by decide) within
    | 3, _ =>
        exact isStart_triple trail within (by rw [continuation?_toUInt8 (by omega)]; rfl)

theorem length_encodeChar (character : Char) :
    0 < (encodeChar character).length ∧ (encodeChar character).length ≤ 4 := by
  rw [encodeChar_eq, String.length_utf8EncodeChar]
  exact ⟨character.utf8Size_pos, character.utf8Size_le_four⟩

/-- A text has at least as many bytes as characters. -/
theorem length_le_length_encodeUtf8 (text : List Char) :
    text.length ≤ (encodeUtf8 text).length := by
  induction text with
  | nil => exact Nat.zero_le _
  | cons character text inductionHypothesis =>
      have := (length_encodeChar character).1
      rw [encodeUtf8_cons, List.length_cons, List.length_append]
      omega

/-- Bytes that encode a text together with others are whole characters and the start of one. -/
theorem exists_isStart_of_append
    {text : List Char}
    {bytes rest : List UInt8}
    (encoded : encodeUtf8 text = bytes ++ rest) :
    ∃ earlier cut,
      bytes = encodeUtf8 earlier ++ cut ∧ isStart cut = true ∧ cut.length < 4 := by
  induction text generalizing bytes with
  | nil =>
      obtain ⟨rfl, -⟩ := List.append_eq_nil_iff.mp encoded.symm
      exact ⟨[], [], rfl, rfl, by decide⟩
  | cons character text inductionHypothesis =>
      rw [encodeUtf8_cons] at encoded
      obtain ⟨later, rfl, same⟩ | ⟨left, same, -⟩ := List.append_eq_append_iff.mp encoded
      · obtain ⟨earlier, cut, rfl, begins, short⟩ := inductionHypothesis same
        exact ⟨character :: earlier, cut, by rw [encodeUtf8_cons, List.append_assoc], begins, short⟩
      · by_cases whole : left = []
        · rw [whole, List.append_nil] at same
          have alone : bytes = encodeUtf8 [character] ++ [] := by
            rw [encodeUtf8_cons, same]
            simp [encodeUtf8]
          exact ⟨[character], [], alone, rfl, by decide⟩
        · have shorter : bytes.length < (encodeChar character).length := by
            rw [same, List.length_append]
            have := List.length_pos_iff.mpr whole
            omega
          have begins := isStart_take_encodeChar character shorter
          rw [same, List.take_left] at begins
          have := (length_encodeChar character).2
          exact ⟨[], bytes, rfl, begins, by omega⟩

/-! ## The text of the bytes that have been read -/

theorem isPrefix_of_encodeUtf8_append
    {earlier text : List Char}
    {rest : List UInt8}
    (encoded : encodeUtf8 earlier ++ rest = encodeUtf8 text) :
    earlier <+: text := by
  have decoded := decodeUtf8_eq_some_iff.mpr encoded.symm
  rw [decodeUtf8, decodeFrom_encodeUtf8_append] at decoded
  obtain ⟨later, rfl, -⟩ := exists_encodeUtf8_of_decodeFrom decoded
  exact ⟨later, by simp⟩

/-- What is read of bytes that may go on is encoded by the first of them. -/
theorem exists_of_decodeStart
    {bytes : List UInt8}
    {read : List Char}
    (decoded : decodeStart bytes = some read) :
    ∃ rest, bytes = encodeUtf8 read ++ rest := by
  obtain ⟨count, -, found⟩ := List.exists_of_findSome?_eq_some decoded
  dsimp only at found
  split at found
  · rw [decodeUtf8_eq_some_iff] at found
    exact ⟨bytes.drop (bytes.length - count), by rw [found, List.take_append_drop]⟩
  · cases found

theorem decodeStart_of_append
    {text : List Char}
    {bytes rest : List UInt8}
    (encoded : encodeUtf8 text = bytes ++ rest) :
    ∃ read, decodeStart bytes = some read ∧ read <+: text := by
  obtain ⟨earlier, cut, rfl, begins, short⟩ := exists_isStart_of_append encoded
  have found : (decodeStart (encodeUtf8 earlier ++ cut)).isSome := by
    refine List.findSome?_isSome_iff.mpr ⟨cut.length, List.mem_range.mpr short, ?_⟩
    have size : (encodeUtf8 earlier ++ cut).length - cut.length = (encodeUtf8 earlier).length := by
      rw [List.length_append, Nat.add_sub_cancel]
    dsimp only
    rw [size, List.drop_left, if_pos begins, List.take_left, decodeUtf8_eq_some_iff.mpr rfl]
    rfl
  obtain ⟨read, decoded⟩ := Option.isSome_iff_exists.mp found
  obtain ⟨left, same⟩ := exists_of_decodeStart decoded
  have continued : encodeUtf8 read ++ (left ++ rest) = encodeUtf8 text := by
    rw [encoded, same, List.append_assoc]
  exact ⟨read, decoded, isPrefix_of_encodeUtf8_append continued⟩

/-! ## Breaks that are cut apart -/

theorem unifyFrom_eq_append (result text : List Char) :
    unifyFrom result text = result.reverse ++ unifyBreaks text := by
  rw [unifyFrom_of_cut (cut_iff.mpr rfl), unifyBreaks_eq_intercalate]

/-- A text that is cut at a place inside of no break has its breaks unified part by part. -/
theorem unifyBreaks_append
    {earlier later : List Char}
    (apart : earlier.getLast? = some '\r' → later.head? ≠ some '\n') :
    unifyBreaks (earlier ++ later) = unifyBreaks earlier ++ unifyBreaks later := by
  suffices onward : ∀ result, unifyFrom result (earlier ++ later) =
      unifyFrom result earlier ++ unifyBreaks later from onward []
  intro result
  fun_induction unifyFrom result earlier with
  | case1 result => exact unifyFrom_eq_append result later
  | case2 result rest inductionHypothesis =>
      rw [List.cons_append, List.cons_append, unifyFrom]
      exact inductionHypothesis fun last => apart (by simp [List.getLast?_cons, last])
  | case3 result rest noFeed inductionHypothesis =>
      rw [List.cons_append, unifyFrom]
      · exact inductionHypothesis fun last => apart (by simp [List.getLast?_cons, last])
      · intro more feed
        cases rest with
        | nil => exact apart rfl (by rw [← List.nil_append later, feed]; rfl)
        | cons character rest => exact noFeed rest (by rw [(List.cons.inj feed).1])
  | case4 result character rest noReturnFeed noReturn inductionHypothesis =>
      rw [List.cons_append, unifyFrom]
      · exact inductionHypothesis fun last => apart (by simp [List.getLast?_cons, last])
      · rintro more rfl
        exact fun _ => noReturn rfl
      · exact noReturn

/-- No break adds a character when it is unified. -/
theorem length_unifyBreaks_le (text : List Char) :
    (unifyBreaks text).length ≤ text.length := by
  suffices onward : ∀ result, (unifyFrom result text).length ≤ result.length + text.length by
    simpa [unifyBreaks] using onward []
  intro result
  fun_induction unifyFrom result text <;> grind

/-- What is read of the first bytes of a text is the start of what the text is read as. -/
theorem readStart_of_append
    {text : List Char}
    {bytes rest : List UInt8}
    (encoded : encodeUtf8 text = bytes ++ rest) :
    ∃ read, readStart bytes = some read ∧ read <+: unifyBreaks text := by
  obtain ⟨read, decoded, later, rfl⟩ := decodeStart_of_append encoded
  refine ⟨_, by rw [readStart, decoded, Option.map_some], ?_⟩
  split
  · rename_i last
    -- The carriage return that is left out stands before what follows, and so does no line feed.
    obtain ⟨earlier, rfl⟩ := List.getLast?_eq_some_iff.mp last
    rw [List.dropLast_concat, List.append_assoc, unifyBreaks_append (by simp)]
    exact List.prefix_append _ _
  · rename_i notLast
    rw [unifyBreaks_append fun last => absurd last notLast]
    exact List.prefix_append _ _

theorem length_le_of_readStart
    {bytes : List UInt8}
    {read : List Char}
    (found : readStart bytes = some read) :
    read.length ≤ bytes.length := by
  obtain ⟨text, decoded, rfl⟩ := Option.map_eq_some_iff.mp found
  obtain ⟨rest, rfl⟩ := exists_of_decodeStart decoded
  have kept : (if text.getLast? = some '\r' then text.dropLast else text).length ≤ text.length := by
    split <;> simp
  have := length_unifyBreaks_le (if text.getLast? = some '\r' then text.dropLast else text)
  have := length_le_length_encodeUtf8 text
  rw [List.length_append]
  omega

/-! ## Whole files -/

namespace Progress

/-- Of a file that encodes a text its first characters are read. -/
theorem readOn_of_encodeUtf8
    {text : List Char}
    (most : Nat)
    {content : List UInt8}
    (encoded : encodeUtf8 text = content)
    (progress : Progress)
    (read : progress.text <+: unifyBreaks text) :
    ∃ shown, progress.readOn most content = some shown ∧
      shown.take most = (unifyBreaks text).take most := by
  fun_induction readOn most content progress with
  | case1 progress enough =>
      obtain ⟨later, same⟩ := read
      exact ⟨_, rfl, by rw [← same, List.take_append_of_le_length enough]⟩
  | case2 progress missing ended =>
      exact ⟨_, by rw [decodeUtf8_eq_some_iff.mpr encoded, Option.map_some], rfl⟩
  | case3 progress missing onward size unread =>
      obtain ⟨shown, found, -⟩ := readStart_of_append
        (encoded.trans (List.take_append_drop (progress.position + size) content).symm)
      rw [unread] at found
      cases found
  | case4 progress missing onward size shown found inductionHypothesis =>
      obtain ⟨shown', found', begins⟩ := readStart_of_append
        (encoded.trans (List.take_append_drop (progress.position + size) content).symm)
      rw [found] at found'
      cases found'
      exact inductionHypothesis begins

/-- A file that encodes no text is read in vain if it has to be read to its end. -/
theorem readOn_of_short
    {most : Nat}
    {content : List UInt8}
    (noText : decodeUtf8 content = none)
    (short : content.length < most)
    {progress : Progress}
    (read : progress.text.length ≤ content.length) :
    progress.readOn most content = none := by
  fun_induction readOn most content progress with
  | case1 progress enough => omega
  | case2 progress missing ended => rw [noText, Option.map_none]
  | case3 progress missing onward size unread => rfl
  | case4 progress missing onward size shown found inductionHypothesis =>
      refine inductionHypothesis (Nat.le_trans (length_le_of_readStart found) ?_)
      exact List.length_take_le' _ _

end Progress

/-- The first characters of a file that encodes a text are read. -/
theorem readUpTo_of_encodeUtf8
    {text : List Char}
    (most : Nat)
    {content : List UInt8}
    (encoded : encodeUtf8 text = content) :
    readUpTo most content = some ((unifyBreaks text).take most) := by
  obtain ⟨shown, found, same⟩ :=
    Progress.readOn_of_encodeUtf8 most encoded Progress.start List.nil_prefix
  rw [readUpTo, found, Option.map_some, same]

/-- A file with fewer bytes than the characters that are wanted is read as a whole. -/
theorem readUpTo_of_short
    {most : Nat}
    {content : List UInt8}
    (short : content.length < most) :
    readUpTo most content = (decodeUtf8 content).map unifyBreaks := by
  cases decoded : decodeUtf8 content with
  | none =>
      rw [readUpTo, Progress.readOn_of_short decoded short (Nat.zero_le _)]
      rfl
  | some text =>
      have encoded := decodeUtf8_eq_some_iff.mp decoded
      have := length_unifyBreaks_le text
      have := length_le_length_encodeUtf8 text
      rw [readUpTo_of_encodeUtf8 most encoded, List.take_of_length_le (by rw [encoded] at *; omega)]
      rfl

end Text
end Snippets
