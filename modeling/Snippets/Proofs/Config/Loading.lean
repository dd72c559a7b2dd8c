import Snippets.Config.Source
import Snippets.Proofs.Files.Environments
import Snippets.Proofs.Text.Piecewise
import Snippets.Proofs.Text.Utf8

/-!
# How loading a configuration ends

Loading is to end with a configuration that was checked, or with a failure that has a message.
The main statement says when it does: the path that counts has to be one that can be told and
looked at, and the file at its end, if there is one, has to hold UTF-8.  A file of other bytes
ends loading without a message, and so does a home directory that is not known.
-/

namespace Snippets
namespace Config

/-- Whether loading ends in a way that is documented, with a configuration that was checked or
with a failure that has a message. -/
def IsDocumented : Except LoadFailure Config → Prop
  | .ok config => ∃ entries, checkEntries entries = .ok config
  | .error failure => failure.message?.isSome

/-- The path that counts: the one that is given, or else that in the variable, or else that of
the file in the working directory. -/
def candidate (environment : Environment) (explicit : Option Path) : Except PathFailure Path :=
  match explicit, variablePath? environment with
  | some path, _ => .ok path
  | none, some path => environment.expandHome path
  | none, none => .ok (localPath environment)

/-- Whether a text that cannot be read fails as one that is not well-formed, not at a scalar
that has no value. -/
def FailsAsMalformed (text : List Char) : Prop :=
  ∀ failure, Yaml.read text = .error failure → failure = .malformed

/-- Whether a file is read in a documented way as far as it is read. -/
def IsOrderly (content : List UInt8) : Prop :=
  ∃ text, Text.readUpTo (greatestSize + 1) content = some text ∧
    (text.length ≤ greatestSize → FailsAsMalformed text)

/-! ## The content of a file -/

theorem isDocumented_default : IsDocumented (.ok {}) :=
  ⟨[], rfl⟩

theorem isDocumented_ofDatum (path : Path) (value : Datum) :
    IsDocumented (ofDatum path value) := by
  cases value with
  | null => exact isDocumented_default
  | mapping entries =>
      rw [ofDatum]
      cases accepted : checkEntries entries with
      | ok config => exact ⟨entries, accepted⟩
      | error issues => rfl
  | _ => rfl

theorem isDocumented_ofContent_iff (path : Path) (content : List UInt8) :
    IsDocumented (ofContent path content) ↔ IsOrderly content := by
  unfold ofContent IsOrderly
  cases read : Text.readUpTo (greatestSize + 1) content with
  | none => simp [IsDocumented, LoadFailure.message?]
  | some text =>
      by_cases large : greatestSize < text.length
      · simp [large, IsDocumented, LoadFailure.message?, Nat.not_le_of_lt large]
      · have small : text.length ≤ greatestSize := Nat.le_of_not_lt large
        simp only [large, if_false, Option.some.injEq, exists_eq_left', small, true_imp_iff]
        unfold FailsAsMalformed
        cases loaded : Yaml.read text with
        | ok value => simpa using isDocumented_ofDatum path value
        | error failure => cases failure <;> simp [IsDocumented, LoadFailure.message?]

/-- A file that encodes a text is read in a documented way, if the text is. -/
theorem isOrderly_of_text
    {text : String}
    {content : List UInt8}
    (encoded : text.toUTF8.data.toList = content)
    (loadable : (Text.unifyBreaks text.toList).length ≤ greatestSize →
      FailsAsMalformed (Text.unifyBreaks text.toList)) :
    IsOrderly content := by
  rw [← Text.encodeUtf8_toList] at encoded
  refine ⟨_, Text.readUpTo_of_encodeUtf8 _ encoded, fun small => ?_⟩
  have whole : (Text.unifyBreaks text.toList).length ≤ greatestSize := by
    rw [List.length_take] at small
    omega
  rw [List.take_of_length_le (by omega)]
  exact loadable whole

/-- A file of no more than the greatest size is read in a documented way only if it encodes a
text. -/
theorem text_of_isOrderly
    {content : List UInt8}
    (orderly : IsOrderly content)
    (small : content.length ≤ greatestSize) :
    ∃ text : String, text.toUTF8.data.toList = content ∧
      FailsAsMalformed (Text.unifyBreaks text.toList) := by
  obtain ⟨read, found, loadable⟩ := orderly
  rw [Text.readUpTo_of_short (Nat.lt_succ_of_le small)] at found
  obtain ⟨text, decoded, rfl⟩ := Option.map_eq_some_iff.mp found
  have encoded := Text.decodeUtf8_eq_some_iff.mp decoded
  have short : (Text.unifyBreaks text).length ≤ greatestSize :=
    calc (Text.unifyBreaks text).length
      _ ≤ text.length := Text.length_unifyBreaks_le text
      _ ≤ (Text.encodeUtf8 text).length := Text.length_le_length_encodeUtf8 text
      _ = content.length := by rw [encoded]
      _ ≤ greatestSize := small
  refine ⟨String.ofList text, ?_, ?_⟩
  · rw [← Text.encodeUtf8_toList, String.toList_ofList, encoded]
  · rw [String.toList_ofList]
    exact loadable short

/-! ## The source that counts -/

/-- What loading comes to at a path.  A file there is read, or cannot be.  Where no file is, the
source of the path decides. -/
def outcomeAt (environment : Environment) (path : Path)
    (elsewhere : Option FileNode → Except LoadFailure Config) : Except LoadFailure Config :=
  match environment.node? path with
  | .error failure => .error (.unknown failure)
  | .ok (some (.file content _)) => ofContent path content
  | .ok (some (.unreadable failure _)) => .error (.cannotRead path failure)
  | .ok found => elsewhere found

/-- The failure at a path that has to lead to a file. -/
def refusal (path : Path) (missing : LoadFailure) : Option FileNode → LoadFailure
  | none => missing
  | some _ => .notFile path

theorem isDocumented_refusal
    {path : Path}
    {missing : LoadFailure}
    (documented : missing.message?.isSome)
    (found : Option FileNode) :
    IsDocumented (.error (refusal path missing found)) := by
  cases found with
  | none => exact documented
  | some node => rfl

section

variable {environment : Environment} {explicit : Option Path}

theorem candidate_of_variable
    {path : Path}
    (named : variablePath? environment = some path) :
    candidate environment none = environment.expandHome path := by
  unfold candidate
  rw [named]

theorem candidate_of_unnamed (unnamed : variablePath? environment = none) :
    candidate environment none = .ok (localPath environment) := by
  unfold candidate
  rw [unnamed]

/-- A path that the variable holds has to lead to something. -/
theorem source_of_variable
    {path target : Path}
    (named : variablePath? environment = some path)
    (expanded : environment.expandHome path = .ok target) :
    source environment none =
      (do return some (target, ← nodeAt environment target (.variableNotFound target))) := by
  unfold source
  rw [named]
  dsimp only
  rw [expanded]

theorem load_of_untold
    {failure : PathFailure}
    (untold : candidate environment explicit = .error failure) :
    load environment explicit = .error (.unknown failure) := by
  cases explicit with
  | some path => cases untold
  | none =>
      cases named : variablePath? environment with
      | none => cases (candidate_of_unnamed named).symm.trans untold
      | some path =>
          rw [candidate_of_variable named] at untold
          unfold load source
          rw [named]
          dsimp only
          rw [untold]
          rfl

variable {path : Path}

/-- Loading from a source that has to lead to a file fails with its own failure where nothing is. -/
theorem load_of_required
    (missing : LoadFailure)
    (required : source environment explicit =
      (do return some (path, ← nodeAt environment path missing))) :
    load environment explicit =
      outcomeAt environment path fun found => .error (refusal path missing found) := by
  unfold load outcomeAt
  rw [required]
  unfold nodeAt
  cases environment.node? path with
  | error failure => rfl
  | ok found =>
      cases found with
      | none => rfl
      | some node => cases node <;> rfl

/-- Loading from the working directory gives the defaults where no file is. -/
theorem load_of_local (unnamed : variablePath? environment = none) :
    load environment none = outcomeAt environment (localPath environment) fun _ => .ok {} := by
  unfold load source outcomeAt
  rw [unnamed]
  dsimp only
  cases environment.node? (localPath environment) with
  | error failure => rfl
  | ok found =>
      cases found with
      | none => rfl
      | some node => cases node <;> rfl

/-- A path that counts is looked at, and where no file is, the defaults count or a failure says
so. -/
theorem load_of_told (told : candidate environment explicit = .ok path) :
    ∃ elsewhere, (∀ found, IsDocumented (elsewhere found)) ∧
      load environment explicit = outcomeAt environment path elsewhere := by
  cases explicit with
  | some given =>
      cases told
      exact ⟨_, isDocumented_refusal rfl, load_of_required (.notFound path) rfl⟩
  | none =>
      cases named : variablePath? environment with
      | none =>
          cases (candidate_of_unnamed named).symm.trans told
          exact ⟨_, fun _ => isDocumented_default, load_of_local named⟩
      | some given =>
          rw [candidate_of_variable named] at told
          exact ⟨_, isDocumented_refusal rfl,
            load_of_required (.variableNotFound path) (source_of_variable named told)⟩

/-- Loading ends in a documented way exactly if the path that counts can be told and looked at,
and a file at its end is read in a documented way. -/
theorem isDocumented_load_iff :
    IsDocumented (load environment explicit) ↔
      ∃ path found, candidate environment explicit = .ok path ∧
        environment.node? path = .ok found ∧
        ∀ content traits, found = some (.file content traits) → IsOrderly content := by
  cases told : candidate environment explicit with
  | error failure => simp [load_of_untold told, IsDocumented, LoadFailure.message?]
  | ok path =>
      obtain ⟨elsewhere, documented, same⟩ := load_of_told told
      rw [same]
      unfold outcomeAt
      simp only [Except.ok.injEq, exists_and_left, exists_eq_left']
      cases environment.node? path with
      | error failure => simp [IsDocumented, LoadFailure.message?]
      | ok found =>
          simp only [Except.ok.injEq, exists_eq_left']
          match found with
          | some (.file content traits) => simp [isDocumented_ofContent_iff]
          | some (.unreadable failure traits) => simp [IsDocumented, LoadFailure.message?]
          | some (.directory _) | some (.link _ _) | none => simp [documented]

/-- Where the path that counts can be told and looked at, and a file at its end encodes a text
in UTF-8, loading ends with a configuration that was checked or with a failure that has a
message.  Of a text that is not too large it is assumed that what keeps it from being read is
that it is not well-formed.  Loading ends in another way where no path can be told or looked at,
and at a file of up to the greatest size that encodes no text. -/
theorem load_documented
    (environment : Environment)
    (explicit : Option Path) :
    (∀ path found,
      candidate environment explicit = .ok path →
      environment.node? path = .ok found →
      (∀ content traits, found = some (.file content traits) →
        ∃ text : String, text.toUTF8.data.toList = content ∧
          ((Text.unifyBreaks text.toList).length ≤ greatestSize →
            FailsAsMalformed (Text.unifyBreaks text.toList))) →
      IsDocumented (load environment explicit)) ∧
    (IsDocumented (load environment explicit) →
      ∃ path found,
        candidate environment explicit = .ok path ∧
        environment.node? path = .ok found ∧
        ∀ content traits, found = some (.file content traits) → content.length ≤ greatestSize →
          ∃ text : String, text.toUTF8.data.toList = content ∧
            FailsAsMalformed (Text.unifyBreaks text.toList)) := by
  constructor
  · intro path found told seen encodes
    refine isDocumented_load_iff.mpr ⟨path, found, told, seen, fun content traits isFile => ?_⟩
    obtain ⟨text, encoded, loadable⟩ := encodes content traits isFile
    exact isOrderly_of_text encoded loadable
  · intro documented
    obtain ⟨path, found, told, seen, orderly⟩ := isDocumented_load_iff.mp documented
    exact ⟨path, found, told, seen, fun content traits isFile small =>
      text_of_isOrderly (orderly content traits isFile) small⟩

end

/-- The statement on endings, for a file that hides tables. -/
theorem load_documented_hiding :
    IsDocumented (load scriptEnvironment (some ⟨"/", ["c.yaml"]⟩)) := by
  have loadable : FailsAsMalformed (Text.unifyBreaks "show_affordance: false".toList) := by
    have read : (Yaml.read (Text.unifyBreaks "show_affordance: false".toList)).toOption.isSome := by
      decide +kernel
    intro failure failed
    rw [failed] at read
    cases read
  refine (load_documented _ _).1 _ _ rfl node?_scriptEnvironment ?_
  rintro content traits ⟨⟩
  exact ⟨"show_affordance: false", (Text.encodeUtf8_toList _).symm, fun _ => loadable⟩

/-- A directory with a file of one byte that starts no character, and a variable with the home
directory of a user who is not known. -/
def strangeEnvironment : Environment where
  tree := ⟨[(["c.yaml"], .file [0xFF] .file)]⟩
  workingDirectory := []
  bindings := [(variableName, "~stranger/c.yaml")]

/-- Not every way in which loading ends is documented.  A file whose bytes encode no text is one
that can be looked at. -/
theorem not_isDocumented_load_strange :
    (∃ traits, strangeEnvironment.node? ⟨"/", ["c.yaml"]⟩ = .ok (some (.file [0xFF] traits))) ∧
    ¬IsDocumented (load strangeEnvironment (some ⟨"/", ["c.yaml"]⟩)) ∧
    ¬IsDocumented (load strangeEnvironment none) := by
  have seen : strangeEnvironment.node? ⟨"/", ["c.yaml"]⟩ = .ok (some (.file [0xFF] .file)) :=
    Environment.node?_root (by decide) rfl rfl
  have noText : Text.readUpTo (greatestSize + 1) [0xFF] = none := by
    rw [Text.readUpTo_of_short (by decide)]
    decide
  have unknown : candidate strangeEnvironment none = .error .unknownUser := rfl
  refine ⟨⟨.file, seen⟩, ?_, ?_⟩
  · intro documented
    obtain ⟨path, found, ⟨⟩, looked, orderly⟩ := isDocumented_load_iff.mp documented
    rw [seen] at looked
    cases looked
    obtain ⟨text, read, -⟩ := orderly [0xFF] .file rfl
    rw [noText] at read
    cases read
  · rw [load_of_untold unknown]
    simp [IsDocumented, LoadFailure.message?]

end Config
end Snippets
