import Snippets.Proofs.Config.Runners
import Snippets.Proofs.Text.Stripping

/-!
# What a configuration may be

The schema of a configuration, entry by entry and apart from the checks.  The main statement says
that the checks accept a JSON value if all of its entries are allowed, and that they put the blame
for a mapping that they refuse on the entries that are not, and on each of them.
-/

namespace Snippets

open Checked

namespace Lenient

/-! ## Checks of scalars that fail -/

theorem explains_boolOfWord (word : List Char) : (boolOfWord word).Explains := by
  unfold boolOfWord
  dsimp only
  split
  · exact explains_ok _
  · split
    · exact explains_ok _
    · exact explains_fail _

theorem explains_boolOfInt (value : Int) : (boolOfInt value).Explains := by
  unfold boolOfInt
  split
  · exact explains_ok _
  · split
    · exact explains_ok _
    · exact explains_fail _

theorem explains_checkBool (value : Datum) : (checkBool value).Explains := by
  cases value with
  | bool truth => exact explains_ok _
  | text word => exact explains_boolOfWord _
  | bytes code =>
      unfold checkBool
      dsimp only
      split
      · exact explains_boolOfWord _
      · exact explains_fail _
  | int number =>
      unfold checkBool
      dsimp only
      split
      · exact explains_boolOfInt _
      · exact explains_fail _
  | float number =>
      unfold checkBool
      dsimp only
      split
      · exact explains_boolOfInt _
      · exact explains_fail _
  | _ => exact explains_fail _

theorem explains_intOfFloat (value : Number.Binary64) : (intOfFloat value).Explains := by
  unfold intOfFloat
  split
  · split
    · exact explains_fail _
    · split
      · exact explains_ok _
      · exact explains_fail _
  · exact explains_fail _

theorem explains_intOfText (characters : List Char) : (intOfText characters).Explains := by
  unfold intOfText
  split
  · exact explains_fail _
  · split
    · exact explains_fail _
    · dsimp only
      split
      · exact explains_fail _
      · exact explains_ok _

theorem explains_checkInt (value : Datum) : (checkInt value).Explains := by
  cases value with
  | bool truth => exact explains_ok _
  | int number => exact explains_ok _
  | float number => exact explains_intOfFloat _
  | text digits => exact explains_intOfText _
  | bytes code =>
      unfold checkInt
      dsimp only
      split
      · exact explains_intOfText _
      · exact explains_fail _
  | _ => exact explains_fail _

end Lenient

theorem RunMode.ofName?_eq_some_iff
    {name : String}
    {mode : RunMode} :
    ofName? name = some mode ↔ name = mode.name := by
  constructor
  · intro found
    have same := List.find?_some (p := fun mode : RunMode => mode.name == name) found
    exact (beq_iff_eq.mp same).symm
  · rintro rfl
    cases mode <;> rfl

namespace Config

/-! ## Checks of single entries -/

theorem checkMode_eq_ok_iff
    {value : Datum}
    {mode : RunMode} :
    checkMode value = .ok mode ↔ value = .text mode.name := by
  constructor
  · intro accepted
    unfold checkMode at accepted
    split at accepted
    · rename_i name
      split at accepted
      · rename_i found named
        cases accepted
        rw [RunMode.ofName?_eq_some_iff.mp named]
      · cases accepted
    · cases accepted
    · cases accepted
  · rintro rfl
    cases mode <;> rfl

theorem explains_checkMode (value : Datum) : (checkMode value).Explains := by
  unfold checkMode
  split
  · split
    · exact explains_ok _
    · exact explains_fail _
  · exact explains_fail _
  · exact explains_fail _

/-- Null is no limit, and a limit is at least one second. -/
theorem checkTimeout_eq_ok_iff
    {value : Datum}
    {limit : Option Nat} :
    checkTimeout value = .ok limit ↔
      (value = .null ∧ limit = none) ∨
        ∃ seconds, Lenient.checkInt value = .ok seconds ∧ 1 ≤ seconds ∧
          limit = some seconds.toNat := by
  unfold checkTimeout
  split
  · have notInt : Lenient.checkInt .null = fail .notInt := rfl
    simp [notInt, fail, eq_comm]
  · rename_i notNull
    rw [or_iff_right fun isNull => notNull isNull.1, bind_eq_ok_iff]
    refine exists_congr fun seconds => and_congr_right fun _ => ?_
    split
    · rename_i tooSmall
      exact iff_of_false (fun accepted => by cases accepted) fun enough =>
        absurd enough.1 (Int.not_le.mpr tooSmall)
    · rename_i enough
      rw [and_iff_right (Int.not_lt.mp enough), Except.ok.injEq, eq_comm]

theorem explains_checkTimeout (value : Datum) : (checkTimeout value).Explains := by
  unfold checkTimeout
  split
  · exact explains_ok _
  · refine (Lenient.explains_checkInt _).bind fun seconds => ?_
    split
    · exact explains_fail _
    · exact explains_ok _

theorem explains_checkRunners (value : Datum) : (checkRunners value).Explains := by
  unfold checkRunners
  split
  · refine Explains.bind ?_ fun runners => ?_
    · unfold collect
      dsimp only
      split
      · exact explains_ok _
      · rename_i someIssue
        exact fun none => someIssue (Except.error.inj none)
    · dsimp only
      split
      · exact explains_fail _
      · exact explains_ok _
  · exact explains_fail _

/-- If all entries are read, there is no issue. -/
theorem collect_of_readsAs
    {entries : List (Datum × Datum)}
    {read : List (String × Runner)}
    (reads : List.Forall₂ ReadsAs entries read) :
    collect (entries.map checkRunner) = .ok read := by
  have noIssue : (entries.map checkRunner).flatMap Checked.issues = [] ∧
      (entries.map checkRunner).filterMap (fun checked => checked.toOption) = read := by
    induction reads with
    | nil => exact ⟨rfl, rfl⟩
    | cons first _ inductionHypothesis =>
        rw [List.map_cons, checkRunner_eq_ok_iff.mpr first, List.flatMap_cons,
          List.filterMap_cons]
        exact ⟨inductionHypothesis.1, congrArg _ inductionHypothesis.2⟩
  rw [collect, if_pos noIssue.1, noIssue.2]

/-- Runners are accepted if all of them are read and no key is blank. -/
theorem checkRunners_of_readsAs
    {entries : List (Datum × Datum)}
    {read : List (String × Runner)}
    (reads : List.Forall₂ ReadsAs entries read)
    (noneBlank : ∀ entry ∈ mappingOf read, Text.isBlankText entry.1 = false) :
    checkRunners (.mapping entries) = .ok (overridesOf read) := by
  have noBlank : ¬(mappingOf read).any (fun entry => Text.isBlankText entry.1) = true := by
    rw [Bool.not_eq_true, List.any_eq_false]
    exact fun entry present => Bool.eq_false_iff.mp (noneBlank entry present)
  rw [checkRunners, collect_of_readsAs reads]
  exact if_neg noBlank

theorem exists_related_of_mem
    {α β : Type}
    {related : α → β → Prop}
    {firsts : List α}
    {seconds : List β}
    (pairs : List.Forall₂ related firsts seconds)
    {first : α}
    (present : first ∈ firsts) :
    ∃ second ∈ seconds, related first second := by
  induction pairs with
  | nil => cases present
  | cons pair _ inductionHypothesis =>
      rcases List.mem_cons.mp present with rfl | later
      · exact ⟨_, List.mem_cons_self, pair⟩
      · obtain ⟨second, among, isRelated⟩ := inductionHypothesis later
        exact ⟨second, List.mem_cons_of_mem _ among, isRelated⟩

theorem exists_readsAs_of_each
    {entries : List (Datum × Datum)}
    (each : ∀ entry ∈ entries, ∃ found, ReadsAs entry found) :
    ∃ read, List.Forall₂ ReadsAs entries read := by
  induction entries with
  | nil => exact ⟨[], .nil⟩
  | cons entry rest inductionHypothesis =>
      obtain ⟨found, first⟩ := each entry List.mem_cons_self
      obtain ⟨read, later⟩ := inductionHypothesis fun other present =>
        each other (List.mem_cons_of_mem entry present)
      exact ⟨found :: read, .cons first later⟩

section

variable {entries : List (Datum × Datum)} {read : List (String × Runner)}

/-- Keys that are texts are read as they are. -/
theorem readsAs_text_keys
    (reads : List.Forall₂ ReadsAs entries read)
    (keys : ∀ entry ∈ entries, ∃ key, entry.1 = .text key) :
    List.Forall₂ (fun entry found => entry.1 = .text found.1 ∧ ReadsAs entry found)
      entries read := by
  refine ((List.forall₂_and_left _ _).mpr ⟨keys, reads⟩).imp ?_
  rintro entry found ⟨⟨key, isText⟩, isRead⟩
  have isKey : checkKey (.text key) = .ok found.1 := isText ▸ isRead.1
  exact ⟨isText.trans (congrArg Datum.text (Except.ok.inj isKey)), isRead⟩

/-- Distinct texts are read as distinct keys. -/
theorem pairwise_ne_of_readsAs
    (reads : List.Forall₂ ReadsAs entries read)
    (keys : ∀ entry ∈ entries, ∃ key, entry.1 = .text key)
    (distinct : entries.Pairwise fun first second => first.1 ≠ second.1) :
    read.Pairwise fun first second => first.1 ≠ second.1 := by
  have same : entries.map Prod.fst = read.map fun found => .text found.1 := by
    rw [← List.forall₂_eq_eq_eq, List.forall₂_map_left_iff, List.forall₂_map_right_iff]
    exact (readsAs_text_keys reads keys).imp fun _ _ both => both.1
  have apart := (List.pairwise_map (R := (· ≠ ·)) (f := Prod.fst)).mpr distinct
  rw [same, List.pairwise_map] at apart
  exact apart.imp fun differs equal => differs (congrArg Datum.text equal)

end

/-! ## The schema -/

/-- Whether a configuration may have an entry. -/
def Allows (name : String) (value : Datum) : Prop :=
  match name with
  | "show_affordance" | "reuse_executor" => ∃ truth, Lenient.checkBool value = .ok truth
  | "executor_mode" => value = .text "file" ∨ value = .text "shell"
  | "timeout" => value = .null ∨ ∃ seconds, Lenient.checkInt value = .ok seconds ∧ 1 ≤ seconds
  | "runners" =>
      ∃ runners, value = .mapping runners ∧
        ∀ key runner, (.text key, runner) ∈ runners →
          Text.strip key ≠ "" ∧ Runner.Describes runner
  | _ => False

theorem exists_checkMode_eq_ok_iff {value : Datum} :
    (∃ mode, checkMode value = .ok mode) ↔ Allows "executor_mode" value := by
  simp only [checkMode_eq_ok_iff]
  constructor
  · rintro ⟨_ | _, rfl⟩
    · exact .inl rfl
    · exact .inr rfl
  · rintro (rfl | rfl)
    · exact ⟨.file, rfl⟩
    · exact ⟨.shell, rfl⟩

theorem exists_checkTimeout_eq_ok_iff {value : Datum} :
    (∃ limit, checkTimeout value = .ok limit) ↔ Allows "timeout" value := by
  simp only [checkTimeout_eq_ok_iff, Allows]
  constructor
  · rintro ⟨limit, ⟨isNull, -⟩ | ⟨seconds, isInt, enough, -⟩⟩
    · exact .inl isNull
    · exact .inr ⟨seconds, isInt, enough⟩
  · rintro (isNull | ⟨seconds, isInt, enough⟩)
    · exact ⟨none, .inl ⟨isNull, rfl⟩⟩
    · exact ⟨_, .inr ⟨seconds, isInt, enough, rfl⟩⟩

theorem not_isBlankText_iff {key : String} :
    Text.isBlankText key = false ↔ Text.strip key ≠ "" := by
  rw [ne_eq, Text.strip_eq_empty_iff, Bool.not_eq_true]

/-- Runners are accepted if no key is blank and every value describes a runner. -/
theorem exists_checkRunners_eq_ok_iff
    {value : Datum}
    (json : value.IsJson) :
    (∃ overrides, checkRunners value = .ok overrides) ↔ Allows "runners" value := by
  constructor
  · rintro ⟨overrides, accepted⟩
    obtain ⟨entries, read, rfl, reads, -, noneBlank⟩ := overrides_of_checkRunners accepted
    rw [mappingOf_of_distinct (pairwise_ne_of_readsAs reads json.keysOf json.distinctOf)]
      at noneBlank
    refine ⟨entries, rfl, fun key runner present => ?_⟩
    obtain ⟨found, among, isKey, -, isRunner⟩ :=
      exists_related_of_mem (readsAs_text_keys reads json.keysOf) present
    rw [Datum.text.inj isKey]
    exact ⟨not_isBlankText_iff.mp (noneBlank found among),
      (Runner.exists_check_eq_ok_iff (json.valuesOf _ present)).mp ⟨_, isRunner⟩⟩
  · rintro ⟨entries, rfl, allowed⟩
    have each : ∀ entry ∈ entries, ∃ found, ReadsAs entry found := by
      rintro ⟨key, runner⟩ present
      obtain ⟨text, rfl⟩ := json.keysOf _ present
      obtain ⟨found, isRunner⟩ :=
        (Runner.exists_check_eq_ok_iff (json.valuesOf _ present)).mpr
          (allowed text runner present).2
      exact ⟨(text, found), rfl, isRunner⟩
    obtain ⟨read, reads⟩ := exists_readsAs_of_each each
    refine ⟨_, checkRunners_of_readsAs reads fun found present => ?_⟩
    rw [mappingOf_of_distinct (pairwise_ne_of_readsAs reads json.keysOf json.distinctOf)]
      at present
    obtain ⟨⟨key, runner⟩, among, isKey, -⟩ :=
      exists_related_of_mem (readsAs_text_keys reads json.keysOf).flip present
    exact not_isBlankText_iff.mpr (allowed found.1 runner (isKey ▸ among)).1

theorem mem_fieldNames_of_allows
    {name : String}
    {value : Datum}
    (allowed : Allows name value) :
    name ∈ fieldNames := by
  unfold Allows at allowed
  split at allowed
  · decide
  · decide
  · decide
  · decide
  · decide
  · exact allowed.elim

/-! ## Blame -/

/-- The issues of the entries of a configuration. -/
def faults (entries : List (Datum × Datum)) : List Issue :=
  (checkField "show_affordance" true Lenient.checkBool entries).issues ++
    (checkField "reuse_executor" true Lenient.checkBool entries).issues ++
    (checkField "executor_mode" RunMode.file checkMode entries).issues ++
    (checkField "timeout" none checkTimeout entries).issues ++
    (checkField "runners" Registry.empty checkRunners entries).issues ++
    entries.filterMap unknownEntry?

theorem explains_checkField
    {α : Type}
    (name : String)
    (default : α)
    {check : Datum → Checked α}
    (explains : ∀ value, (check value).Explains)
    (entries : List (Datum × Datum)) :
    (checkField name default check entries).Explains := by
  unfold checkField
  split
  · exact (explains _).under _
  · exact explains_ok _

theorem isBroken_of_keys
    {entries : List (Datum × Datum)}
    (keys : ∀ entry ∈ entries, ∃ key, entry.1 = .text key) :
    ∀ entry ∈ entries, isBroken entry.1 = false := by
  intro entry present
  obtain ⟨key, isText⟩ := keys entry present
  rw [isText]
  rfl

/-- Entries with texts as keys are accepted if there is no issue. -/
theorem exists_checkEntries_eq_ok
    {entries : List (Datum × Datum)}
    (keys : ∀ entry ∈ entries, ∃ key, entry.1 = .text key)
    (noIssue : faults entries = []) :
    ∃ config, checkEntries entries = .ok config := by
  simp only [faults, List.append_eq_nil_iff] at noIssue
  obtain ⟨⟨⟨⟨⟨noShow, noReuse⟩, noMode⟩, noTimeout⟩, noOverrides⟩, noneUnknown⟩ := noIssue
  have isBool (name : String) := explains_checkField name true Lenient.explains_checkBool entries
  obtain ⟨shows, isShow⟩ := (isBool _).issues_eq_nil_iff.mp noShow
  obtain ⟨reuses, isReuse⟩ := (isBool _).issues_eq_nil_iff.mp noReuse
  obtain ⟨mode, isMode⟩ :=
    (explains_checkField _ _ explains_checkMode entries).issues_eq_nil_iff.mp noMode
  obtain ⟨limit, isLimit⟩ :=
    (explains_checkField _ _ explains_checkTimeout entries).issues_eq_nil_iff.mp noTimeout
  obtain ⟨overrides, isOverrides⟩ :=
    (explains_checkField _ _ explains_checkRunners entries).issues_eq_nil_iff.mp noOverrides
  exact ⟨⟨shows, reuses, mode, limit, overrides⟩, checkEntries_eq_ok_iff.mpr
    ⟨isBroken_of_keys keys, isShow, isReuse, isMode, isLimit, isOverrides, noneUnknown⟩⟩

/-- Otherwise they are refused with all issues. -/
theorem checkEntries_eq_error
    {entries : List (Datum × Datum)}
    (keys : ∀ entry ∈ entries, ∃ key, entry.1 = .text key)
    (someIssue : faults entries ≠ []) :
    checkEntries entries = .error (faults entries) := by
  have noneBroken : ¬(entries.any fun entry => isBroken entry.1) = true := by
    rw [Bool.not_eq_true, List.any_eq_false]
    exact fun entry present => Bool.eq_false_iff.mp (isBroken_of_keys keys entry present)
  rw [checkEntries, if_neg noneBroken]
  dsimp only
  split
  · rename_i none
    exact absurd none someIssue
  · rfl

/-- Where an issue starts: the key of an entry, or nowhere if it is that of the whole value. -/
def blamed (issues : List Issue) : List (Option PathStep) :=
  issues.map fun issue => issue.path.head?

theorem mem_blamed_under_iff
    {α : Type}
    {checked : Checked α}
    (explains : checked.Explains)
    {step : PathStep}
    {first : Option PathStep} :
    first ∈ blamed (checked.under step).issues ↔
      (¬∃ value, checked = .ok value) ∧ first = some step := by
  cases checked with
  | ok value => simp [blamed, issues, under, Except.mapError]
  | error found =>
      have nonempty : found ≠ [] := fun none => explains (none ▸ rfl)
      have all : blamed (under step (.error found : Checked α)).issues =
          found.map fun _ => some step :=
        List.map_map
      rw [all, List.map_const', List.mem_replicate]
      simp [nonempty]

/-- Whether some issues put the blame on the entry of a name if it is not allowed, and on nothing
else. -/
def Blames (entries : List (Datum × Datum)) (name : String) (found : List Issue) : Prop :=
  ∀ first, first ∈ blamed found ↔
    ∃ value, (.text name, value) ∈ entries ∧ ¬Allows name value ∧ first = some (.key name)

/-- A check that accepts what is allowed blames an entry if it is not. -/
theorem blames_checkField
    {α : Type}
    {name : String}
    (default : α)
    {check : Datum → Checked α}
    {entries : List (Datum × Datum)}
    (distinct : entries.Pairwise fun first second => first.1 ≠ second.1)
    (explains : ∀ value, (check value).Explains)
    (accepts : ∀ value, (.text name, value) ∈ entries →
      ((∃ result, check value = .ok result) ↔ Allows name value)) :
    Blames entries name (checkField name default check entries).issues := by
  intro first
  have found {value : Datum} :
      Datum.field? name entries = some value ↔ (.text name, value) ∈ entries :=
    Datum.field?_eq_some_iff distinct
  unfold checkField
  simp only [← found] at accepts ⊢
  cases given : Datum.field? name entries with
  | none => simp [blamed, issues]
  | some value =>
      rw [mem_blamed_under_iff (explains value), accepts value given]
      simp

/-- An entry without a check of its own is blamed for being there. -/
theorem mem_blamed_unknown_iff
    {entries : List (Datum × Datum)}
    (keys : ∀ entry ∈ entries, ∃ key, entry.1 = .text key)
    (first : Option PathStep) :
    first ∈ blamed (entries.filterMap unknownEntry?) ↔
      ∃ name value, (.text name, value) ∈ entries ∧ name ∉ fieldNames ∧
        first = some (.key name) := by
  have unknown (name : String) (value : Datum) :
      unknownEntry? (.text name, value) =
        if name ∈ fieldNames then none else some ⟨[.key name], .extra⟩ := by
    simp [Issue.under, Issue.here, unknownEntry?]
  simp only [blamed, List.mem_map, List.mem_filterMap]
  constructor
  · rintro ⟨issue, ⟨⟨key, value⟩, present, found⟩, rfl⟩
    obtain ⟨name, rfl⟩ := keys _ present
    rw [unknown] at found
    split at found
    · cases found
    · rename_i notField
      cases found
      exact ⟨name, value, present, notField, rfl⟩
  · rintro ⟨name, value, present, notField, rfl⟩
    exact ⟨⟨[.key name], .extra⟩, ⟨_, present, by rw [unknown, if_neg notField]⟩, rfl⟩

/-- The entries that are blamed are those that are not allowed. -/
theorem mem_blamed_faults_iff
    {entries : List (Datum × Datum)}
    (json : (Datum.mapping entries).IsJson)
    {first : Option PathStep} :
    first ∈ blamed (faults entries) ↔
      ∃ name value, (.text name, value) ∈ entries ∧ ¬Allows name value ∧
        first = some (.key name) := by
  have distinct := json.distinctOf
  have isBool (name : String)
      (accepts : ∀ value, (∃ truth, Lenient.checkBool value = .ok truth) ↔ Allows name value) :
      Blames entries name (checkField name true Lenient.checkBool entries).issues :=
    blames_checkField true distinct Lenient.explains_checkBool fun value _ => accepts value
  have shows := isBool "show_affordance" (fun _ => Iff.rfl) first
  have reuses := isBool "reuse_executor" (fun _ => Iff.rfl) first
  have mode := blames_checkField RunMode.file distinct explains_checkMode
    (fun _ _ => exists_checkMode_eq_ok_iff) first
  have limit := blames_checkField none distinct explains_checkTimeout
    (fun _ _ => exists_checkTimeout_eq_ok_iff) first
  have overrides := blames_checkField Registry.empty distinct explains_checkRunners
    (fun _ present => exists_checkRunners_eq_ok_iff (json.valuesOf _ present)) first
  have unknown := mem_blamed_unknown_iff json.keysOf first
  unfold blamed at *
  simp only [faults, List.map_append, List.mem_append]
  rw [shows, reuses, mode, limit, overrides, unknown]
  constructor
  · rintro (((((found | found) | found) | found) | found) | ⟨name, value, found⟩)
    · exact ⟨_, found⟩
    · exact ⟨_, found⟩
    · exact ⟨_, found⟩
    · exact ⟨_, found⟩
    · exact ⟨_, found⟩
    · obtain ⟨present, notField, same⟩ := found
      exact ⟨name, value, present, fun allowed => notField (mem_fieldNames_of_allows allowed),
        same⟩
  · rintro ⟨name, value, present, notAllowed, same⟩
    by_cases isField : name ∈ fieldNames
    · left
      simp only [fieldNames, List.mem_cons, List.not_mem_nil, or_false] at isField
      rcases isField with rfl | rfl | rfl | rfl | rfl
      · exact .inl (.inl (.inl (.inl ⟨value, present, notAllowed, same⟩)))
      · exact .inl (.inl (.inl (.inr ⟨value, present, notAllowed, same⟩)))
      · exact .inl (.inl (.inr ⟨value, present, notAllowed, same⟩))
      · exact .inl (.inr ⟨value, present, notAllowed, same⟩)
      · exact .inr ⟨value, present, notAllowed, same⟩
    · exact .inr ⟨name, value, present, isField, same⟩

/-- There is no issue if all entries are allowed. -/
theorem faults_eq_nil_iff
    {entries : List (Datum × Datum)}
    (json : (Datum.mapping entries).IsJson) :
    faults entries = [] ↔ ∀ name value, (.text name, value) ∈ entries → Allows name value := by
  constructor
  · intro noIssue name value present
    by_contra notAllowed
    have isBlamed : some (.key name) ∈ blamed (faults entries) :=
      (mem_blamed_faults_iff json).mpr ⟨name, value, present, notAllowed, rfl⟩
    rw [noIssue] at isBlamed
    cases isBlamed
  · intro allowed
    refine List.eq_nil_iff_forall_not_mem.mpr fun issue present => ?_
    have isBlamed : issue.path.head? ∈ blamed (faults entries) := List.mem_map_of_mem present
    obtain ⟨name, value, among, notAllowed, -⟩ := (mem_blamed_faults_iff json).mp isBlamed
    exact notAllowed (allowed name value among)

/-- A JSON value is accepted if it is a mapping and all of its entries are allowed.  If a mapping is
refused, its issues start at the keys of the entries that are not allowed, at each of them and at
no others. -/
theorem check_json_iff
    {data : Datum}
    (json : data.IsJson) :
    ((∃ config, check data = .ok config) ↔
      ∃ entries, data = .mapping entries ∧
        ∀ name value, (.text name, value) ∈ entries → Allows name value) ∧
    ∀ entries found, data = .mapping entries → check data = .error found →
      ∀ first, first ∈ blamed found ↔
        ∃ name value, (.text name, value) ∈ entries ∧ ¬Allows name value ∧
          first = some (.key name) := by
  refine ⟨⟨?accepted, ?allowed⟩, ?refused⟩
  case accepted =>
    rintro ⟨config, accepted⟩
    cases data with
    | mapping entries =>
        refine ⟨entries, rfl, (faults_eq_nil_iff json).mp ?_⟩
        by_contra someIssue
        exact absurd (accepted.symm.trans (checkEntries_eq_error json.keysOf someIssue)) nofun
    | _ => cases accepted
  case allowed =>
    rintro ⟨entries, rfl, allowed⟩
    exact exists_checkEntries_eq_ok json.keysOf ((faults_eq_nil_iff json).mpr allowed)
  case refused =>
    rintro entries found rfl refused first
    rw [← mem_blamed_faults_iff json]
    by_cases noIssue : faults entries = []
    · obtain ⟨config, accepted⟩ := exists_checkEntries_eq_ok json.keysOf noIssue
      exact absurd (accepted.symm.trans refused) nofun
    · have same := (checkEntries_eq_error json.keysOf noIssue).symm.trans refused
      rw [Except.error.inj same]

/-- The entries of a configuration with two faults in one entry, one fault in each of two more,
an entry that is none of a configuration's, and one that is allowed. -/
def faultyEntries : List (Datum × Datum) :=
  [(.text "colour", .null),
   (.text "executor_mode", .text "shell"),
   (.text "timeout", .int 0),
   (.text "show_affordance", .text "maybe"),
   (.text "runners", .mapping
     [(.text "ruby", .mapping
        [(.text "command", .text "ruby"), (.text "ext", .text "rb")])])]

theorem isJson_faultyEntries : (Datum.mapping faultyEntries).IsJson := by
  have runner : (Datum.mapping
      [(.text "command", .text "ruby"), (.text "ext", .text "rb")]).IsJson :=
    .mapping (by simp) (by simp) (by simp [Datum.IsJson.text])
  have runners : (Datum.mapping [(.text "ruby", .mapping
      [(.text "command", .text "ruby"), (.text "ext", .text "rb")])]).IsJson :=
    .mapping (by simp) (by simp) (by simpa using runner)
  refine .mapping (by simp [faultyEntries]) (by simp [faultyEntries]) ?_
  simp [faultyEntries, Datum.IsJson.null, Datum.IsJson.text, Datum.IsJson.int, runners]

/-- The statement on what is accepted and what is blamed, for these entries. -/
theorem check_json_iff_faulty :
    (Datum.mapping faultyEntries).IsJson ∧
    ∃ found, check (.mapping faultyEntries) = .error found ∧
      blamed found = [some (.key "show_affordance"), some (.key "timeout"),
        some (.key "runners"), some (.key "runners"), some (.key "colour")] ∧
      ∀ first, first ∈ blamed found ↔
        ∃ name value, (.text name, value) ∈ faultyEntries ∧ ¬Allows name value ∧
          first = some (.key name) := by
  have refused : check (.mapping faultyEntries) = .error (faults faultyEntries) := by
    decide +kernel
  exact ⟨isJson_faultyEntries, _, refused, by decide +kernel,
    (check_json_iff isJson_faultyEntries).2 _ _ rfl refused⟩

end Config
end Snippets
