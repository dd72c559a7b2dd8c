import Snippets.Proofs.Config.Sources

/-!
# When a file is too large

The limit on a configuration is one on characters, which are counted with every break as one.  A
file may be longer than its text by the further bytes of its characters and by the line feeds that
belong to a carriage return.  The main statement tells from the number of bytes, less this surplus,
whether a file is too large; bytes alone tell it of files without a surplus.
-/

namespace Snippets
namespace Text

/-- The number of bytes by which the file of a text is longer than the text with unified breaks. -/
def surplus : List Char → Nat
  | [] => 0
  | '\r' :: '\n' :: rest => surplus rest + 1
  | character :: rest => surplus rest + ((encodeChar character).length - 1)

/-- A character is encoded by one byte exactly if it is one of the first. -/
theorem length_encodeChar_eq_one_iff {character : Char} :
    (encodeChar character).length = 1 ↔ character.toNat < 0x80 := by
  unfold encodeChar
  dsimp only
  split
  · simp [*]
  split
  · simp [*]
  split <;> simp [*]

/-- A file has a byte for each character of its text with unified breaks, and those of its
surplus. -/
theorem length_encodeUtf8 (text : List Char) :
    (encodeUtf8 text).length = (unifyBreaks text).length + surplus text := by
  suffices onward : ∀ result,
      result.length + (encodeUtf8 text).length = (unifyFrom result text).length + surplus text by
    simpa [unifyBreaks] using onward []
  intro result
  fun_induction unifyFrom result text with
  | case1 result => simp [surplus, encodeUtf8]
  | case2 result rest inductionHypothesis =>
      have returns : (encodeChar '\r').length = 1 := length_encodeChar_eq_one_iff.mpr (by decide)
      have feeds : (encodeChar '\n').length = 1 := length_encodeChar_eq_one_iff.mpr (by decide)
      simp only [encodeUtf8_cons, List.length_append, List.length_cons, surplus] at *
      omega
  | case3 result rest noFeed inductionHypothesis =>
      have returns : (encodeChar '\r').length = 1 := length_encodeChar_eq_one_iff.mpr (by decide)
      rw [surplus]
      · simp only [encodeUtf8_cons, List.length_append, List.length_cons] at *
        omega
      · intro more _ feed
        exact noFeed more feed
  | case4 result character rest noReturnFeed noReturn inductionHypothesis =>
      have positive := (length_encodeChar character).1
      rw [surplus]
      · simp only [encodeUtf8_cons, List.length_append, List.length_cons] at *
        omega
      · intro more isReturn _
        exact noReturn isReturn

/-- A text has no surplus if it is ASCII and has no pairs of a carriage return and a line feed. -/
theorem surplus_eq_zero
    {text : List Char}
    (ascii : ∀ character ∈ text, character.toNat < 0x80)
    (unpaired : ¬['\r', '\n'] <:+: text) :
    surplus text = 0 := by
  fun_induction surplus text with
  | case1 => rfl
  | case2 rest inductionHypothesis =>
      exact absurd (List.prefix_append ['\r', '\n'] rest).isInfix unpaired
  | case3 character rest noPair inductionHypothesis =>
      have one := length_encodeChar_eq_one_iff.mpr (ascii character List.mem_cons_self)
      have none := inductionHypothesis
        (fun other present => ascii other (List.mem_cons_of_mem _ present))
        fun paired => unpaired (List.infix_cons paired)
      rw [none, one]

end Text

namespace Config

/-- No value makes its file too large. -/
theorem ofDatum_ne_tooLarge (path : Path) (value : Datum) :
    ofDatum path value ≠ .error (.tooLarge path) := by
  intro tooLarge
  cases value with
  | mapping entries =>
      rw [ofDatum] at tooLarge
      cases checked : checkEntries entries <;>
        · rw [checked] at tooLarge
          cases tooLarge
  | _ => cases tooLarge

/-- A file that encodes a text is too large exactly if the text has too many characters. -/
theorem ofContent_tooLarge_iff
    {path : Path}
    {content : List UInt8}
    {text : List Char}
    (encoded : Text.encodeUtf8 text = content) :
    ofContent path content = .error (.tooLarge path) ↔
      greatestSize < (Text.unifyBreaks text).length := by
  have read := Text.readUpTo_of_encodeUtf8 (greatestSize + 1) encoded
  have long : greatestSize < ((Text.unifyBreaks text).take (greatestSize + 1)).length ↔
      greatestSize < (Text.unifyBreaks text).length := by
    rw [List.length_take]
    omega
  rw [ofContent, read]
  dsimp only
  by_cases large : greatestSize < (Text.unifyBreaks text).length
  · rw [if_pos (long.mpr large)]
    exact iff_of_true rfl large
  · rw [if_neg fun isLong => large (long.mp isLong)]
    refine iff_of_false ?_ large
    cases Yaml.read ((Text.unifyBreaks text).take (greatestSize + 1)) with
    | ok value => exact ofDatum_ne_tooLarge path value
    | error failure =>
        intro tooLarge
        cases failure <;> cases tooLarge

/-- A file to which the path that counts leads and that encodes a text is too large exactly if it
is longer than the limit by more than the surplus of the text.  One that is too large is always
longer than the limit, and without multi-byte characters and pairs of a carriage return and a line
feed every longer one is too large. -/
theorem load_tooLarge_iff
    {environment : Environment}
    {explicit : Option Path}
    {path : Path}
    {content : List UInt8}
    {traits : NodeTraits}
    {text : String}
    (told : candidate environment explicit = .ok path)
    (seen : environment.node? path = .ok (some (.file content traits)))
    (encoded : text.toUTF8.data.toList = content) :
    (load environment explicit = .error (.tooLarge path) ↔
      greatestSize + Text.surplus text.toList < content.length) ∧
    (load environment explicit = .error (.tooLarge path) → greatestSize < content.length) ∧
    ((∀ character ∈ text.toList, character.toNat < 0x80) → ¬['\r', '\n'] <:+: text.toList →
      (load environment explicit = .error (.tooLarge path) ↔ greatestSize < content.length)) ∧
    (LoadFailure.tooLarge path).message? =
      some ("Config " ++ path.text ++ " exceeds 1MB limit") := by
  rw [← Text.encodeUtf8_toList] at encoded
  have size : content.length = (Text.unifyBreaks text.toList).length + Text.surplus text.toList :=
    encoded ▸ Text.length_encodeUtf8 text.toList
  have tooLarge_iff : load environment explicit = .error (.tooLarge path) ↔
      greatestSize + Text.surplus text.toList < content.length := by
    rw [load_of_file told seen, ofContent_tooLarge_iff encoded]
    omega
  refine ⟨tooLarge_iff, fun tooLarge => ?_, fun ascii unpaired => ?_, rfl⟩
  · have := tooLarge_iff.mp tooLarge
    omega
  · rw [tooLarge_iff, Text.surplus_eq_zero ascii unpaired, Nat.add_zero]

/-! ## A file of accented letters -/

/-- Comments of one accented letter, each on a line of its own. -/
def accents (count : Nat) : String :=
  String.ofList (List.replicate count ['#', 'é', '\n']).flatten

/-- A directory with a file of such comments. -/
def accentEnvironment (count : Nat) : Environment where
  tree := ⟨[(["c.yaml"], .file (accents count).toUTF8.data.toList .file)]⟩
  workingDirectory := []
  bindings := []

theorem toList_accents_succ (count : Nat) :
    (accents (count + 1)).toList = '#' :: 'é' :: '\n' :: (accents count).toList := by
  simp [accents, List.replicate_succ]

theorem length_encodeChar_accents :
    (Text.encodeChar '#').length = 1 ∧ (Text.encodeChar 'é').length = 2 ∧
      (Text.encodeChar '\n').length = 1 := by
  decide

/-- Each comment has two bytes for its letter and one for each of the other characters. -/
theorem length_accents (count : Nat) :
    (accents count).toUTF8.data.toList.length = 4 * count := by
  rw [← Text.encodeUtf8_toList]
  induction count with
  | zero => decide
  | succ count inductionHypothesis =>
      simp only [toList_accents_succ, Text.encodeUtf8_cons, List.length_append,
        length_encodeChar_accents, inductionHypothesis]
      omega

theorem surplus_accents (count : Nat) : Text.surplus (accents count).toList = count := by
  induction count with
  | zero => decide
  | succ count inductionHypothesis =>
      simp [toList_accents_succ, Text.surplus, inductionHypothesis, length_encodeChar_accents]

/-- The path of that file. -/
def accentPath : Path :=
  ⟨"/", ["c.yaml"]⟩

/-- The statement on files that are too large, for more comments than there may be. -/
theorem load_tooLarge_accents :
    candidate (accentEnvironment 400000) (some accentPath) = .ok accentPath ∧
    (accentEnvironment 400000).node? accentPath =
      .ok (some (.file (accents 400000).toUTF8.data.toList .file)) ∧
    load (accentEnvironment 400000) (some accentPath) = .error (.tooLarge accentPath) := by
  have seen : (accentEnvironment 400000).node? accentPath =
      .ok (some (.file (accents 400000).toUTF8.data.toList .file)) :=
    Environment.node?_root (by decide) rfl rfl
  refine ⟨rfl, seen, (load_tooLarge_iff rfl seen rfl).1.mpr ?_⟩
  rw [length_accents, surplus_accents]
  decide

/-- A file of comments that is longer than the limit is not too large. -/
theorem not_tooLarge_accents :
    candidate (accentEnvironment 300000) (some accentPath) = .ok accentPath ∧
    (accentEnvironment 300000).node? accentPath =
      .ok (some (.file (accents 300000).toUTF8.data.toList .file)) ∧
    greatestSize < (accents 300000).toUTF8.data.toList.length ∧
    ¬load (accentEnvironment 300000) (some accentPath) = .error (.tooLarge accentPath) := by
  have seen : (accentEnvironment 300000).node? accentPath =
      .ok (some (.file (accents 300000).toUTF8.data.toList .file)) :=
    Environment.node?_root (by decide) rfl rfl
  refine ⟨rfl, seen, ?_, fun tooLarge => ?_⟩
  · rw [length_accents]
    decide
  · rw [load_of_file rfl seen, ofContent_tooLarge_iff (Text.encodeUtf8_toList _)] at tooLarge
    have size := Text.length_encodeUtf8 (accents 300000).toList
    rw [Text.encodeUtf8_toList, length_accents, surplus_accents] at size
    have limit : greatestSize = 1048576 := by decide
    omega

end Config
end Snippets
