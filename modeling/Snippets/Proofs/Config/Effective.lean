import Mathlib.Data.List.Forall2
import Snippets.Config.Check
import Snippets.Proofs.Config.Lookup
import Snippets.Proofs.Text.LowerCase

/-!
# The runners in effect

The keys of the runners in the data of a configuration are brought into lower case twice, when
the data are checked and when the registry is made, and both times the later of two entries for
one language counts.  The main statement says that this amounts to one rule: the runner of a
language is that of the last entry whose key stands for the language, as it is, and the built-in
one where there is no such entry.
-/

namespace Snippets

/-! ## Checks that fail have issues -/

namespace Checked

variable {α β : Type}

/-- Whether a check that fails has an issue. -/
def Explains (checked : Checked α) : Prop :=
  checked ≠ .error []

theorem explains_ok (value : α) : Explains (.ok value) := by
  simp [Explains]

theorem explains_fail (fault : Fault) : Explains (fail fault : Checked α) := by
  simp [Explains, fail]

theorem Explains.under
    {checked : Checked α}
    (explains : checked.Explains)
    (step : PathStep) :
    (checked.under step).Explains := by
  cases checked with
  | ok value => exact explains_ok value
  | error found =>
      intro same
      refine explains ?_
      simpa [Checked.under, Except.mapError] using same

theorem Explains.bind
    {checked : Checked α}
    (explains : checked.Explains)
    {next : α → Checked β}
    (nextExplains : ∀ value, (next value).Explains) :
    Explains (checked >>= next) := by
  cases checked with
  | ok value => exact nextExplains value
  | error found => simpa [Explains, Bind.bind, Except.bind] using explains

theorem Explains.issues_eq_nil_iff
    {checked : Checked α}
    (explains : checked.Explains) :
    checked.issues = [] ↔ ∃ value, checked = .ok value := by
  cases checked with
  | ok value => simp [issues]
  | error found => simpa [issues, Explains] using explains

theorem under_eq_ok_iff
    {step : PathStep}
    {checked : Checked α}
    {value : α} :
    checked.under step = .ok value ↔ checked = .ok value := by
  cases checked <;> simp [under, Except.mapError]

end Checked

open Checked

namespace Runner

theorem explains_checkText (value : Datum) : (checkText value).Explains := by
  unfold checkText
  split
  · exact explains_ok _
  · exact explains_fail _
  · split
    · exact explains_ok _
    · exact explains_fail _
  · exact explains_fail _

theorem explains_checkTextOfLength (least : Nat) (value : Datum) :
    (checkTextOfLength least value).Explains := by
  refine (explains_checkText value).bind fun text => ?_
  split
  · exact explains_fail _
  · exact explains_ok _

theorem explains_checkCommand (value : Datum) : (checkCommand value).Explains := by
  refine (explains_checkTextOfLength 1 value).bind fun command => ?_
  split
  · exact explains_ok _
  · exact explains_fail _

theorem explains_checkExt (value : Datum) : (checkExt value).Explains := by
  refine (explains_checkTextOfLength 2 value).bind fun ext => ?_
  split
  · exact explains_ok _
  · exact explains_fail _

theorem explains_checkEntry
    {α : Type}
    (name : String)
    {check : Datum → Checked α}
    (explains : ∀ value, (check value).Explains)
    (entries : List (Datum × Datum)) :
    (checkEntry name check entries).Explains := by
  refine Explains.under ?_ _
  split
  · exact explains _
  · exact explains_fail _

theorem explains_check (value : Datum) : (check value).Explains := by
  unfold check
  split
  · rename_i entries
    have command := explains_checkEntry "command" explains_checkCommand entries
    have ext := explains_checkEntry "ext" explains_checkExt entries
    split
    · exact explains_ok _
    · rename_i notBoth
      intro none
      obtain ⟨noCommandIssue, noExtIssue⟩ := List.append_eq_nil_iff.mp (Except.error.inj none)
      obtain ⟨text, isText⟩ := command.issues_eq_nil_iff.mp noCommandIssue
      obtain ⟨suffix, isSuffix⟩ := ext.issues_eq_nil_iff.mp noExtIssue
      exact notBoth text suffix isText isSuffix
  · exact explains_fail _

end Runner

namespace Config

/-! ## Entries of the runners -/

/-- Whether an entry of the runners is read as a key and a runner. -/
def ReadsAs (entry : Datum × Datum) (read : String × Runner) : Prop :=
  checkKey entry.1 = .ok read.1 ∧ Runner.check entry.2 = .ok read.2

theorem explains_checkKey (key : Datum) : (checkKey key).Explains := by
  unfold checkKey
  split
  · exact explains_ok _
  · exact Runner.explains_checkText _

theorem checkRunner_eq_ok_iff
    {entry : Datum × Datum}
    {read : String × Runner} :
    checkRunner entry = .ok read ↔ ReadsAs entry read := by
  have isKey {language : String} :
      ((checkKey entry.1).under (.key "[key]")).under (PathStep.ofDatum entry.1) = .ok language ↔
        checkKey entry.1 = .ok language :=
    under_eq_ok_iff.trans under_eq_ok_iff
  have isRunner {runner : Runner} :
      (Runner.check entry.2).under (PathStep.ofDatum entry.1) = .ok runner ↔
        Runner.check entry.2 = .ok runner :=
    under_eq_ok_iff
  rw [checkRunner, ReadsAs, ← isKey, ← isRunner]
  split
  · rename_i language runner keyRead runnerRead
    rw [keyRead, runnerRead]
    simp [Prod.ext_iff]
  · rename_i notBoth
    exact iff_of_false (fun isRead => by cases isRead) fun both => notBoth _ _ both.1 both.2

theorem explains_checkRunner (entry : Datum × Datum) : (checkRunner entry).Explains := by
  have key := ((explains_checkKey entry.1).under (.key "[key]")).under (PathStep.ofDatum entry.1)
  have runner := (Runner.explains_check entry.2).under (PathStep.ofDatum entry.1)
  unfold checkRunner
  dsimp only
  split
  · exact explains_ok _
  · rename_i notBoth
    intro none
    obtain ⟨noKeyIssue, noRunnerIssue⟩ := List.append_eq_nil_iff.mp (Except.error.inj none)
    obtain ⟨language, isKey⟩ := key.issues_eq_nil_iff.mp noKeyIssue
    obtain ⟨runner, isRunner⟩ := runner.issues_eq_nil_iff.mp noRunnerIssue
    exact notBoth language runner isKey isRunner

/-- If there is no issue, all entries are read. -/
theorem readsAs_of_collect
    {entries : List (Datum × Datum)}
    {read : List (String × Runner)}
    (collected : collect (entries.map checkRunner) = .ok read) :
    List.Forall₂ ReadsAs entries read := by
  unfold collect at collected
  dsimp only at collected
  split at collected
  · rename_i noIssue
    cases collected
    induction entries with
    | nil => exact .nil
    | cons entry rest inductionHypothesis =>
        rw [List.map_cons, List.flatMap_cons, List.append_eq_nil_iff] at noIssue
        obtain ⟨first, isRead⟩ := (explains_checkRunner entry).issues_eq_nil_iff.mp noIssue.1
        rw [List.map_cons, List.filterMap_cons, isRead]
        exact .cons (checkRunner_eq_ok_iff.mp isRead) (inductionHypothesis noIssue.2)
  · cases collected

/-- The entries that are read, each key in the place where it first came up and with the runner
that it came up with last. -/
def mappingOf (read : List (String × Runner)) : List (String × Runner) :=
  Association.ofList (fun first second => first == second) read

/-- Entries with distinct keys are a mapping as they are. -/
theorem mappingOf_of_distinct
    {read : List (String × Runner)}
    (distinct : read.Pairwise fun first second => first.1 ≠ second.1) :
    mappingOf read = read := by
  induction read using List.reverseRecOn with
  | nil => rfl
  | append_singleton read entry inductionHypothesis =>
      obtain ⟨earlier, -, differs⟩ := List.pairwise_append.mp distinct
      have new : ∀ other ∈ read, (other.1 == entry.1) = false := fun other present =>
        beq_eq_false_iff_ne.mpr (differs other present entry (List.mem_singleton_self entry))
      have before : Association.ofList (fun first second => first == second) read = read :=
        inductionHypothesis earlier
      rw [mappingOf, Association.ofList, List.foldl_append, ← Association.ofList, before]
      exact Association.put_of_new new

/-- The runners of a configuration, made of those that were read. -/
def overridesOf (read : List (String × Runner)) : Registry :=
  Registry.empty.insertAll ((mappingOf read).map fun entry => (languageOfKey entry.1, entry.2))

/-- The runners of a configuration are made of all entries of a mapping, and none of their keys is
blank. -/
theorem overrides_of_checkRunners
    {value : Datum}
    {overrides : Registry}
    (accepted : checkRunners value = .ok overrides) :
    ∃ entries read,
      value = .mapping entries ∧ List.Forall₂ ReadsAs entries read ∧
      overrides = overridesOf read ∧
      ∀ entry ∈ mappingOf read, Text.isBlankText entry.1 = false := by
  cases value with
  | mapping entries =>
      cases collected : collect (entries.map checkRunner) with
      | error issues => simp [checkRunners, collected, bind, Except.bind] at accepted
      | ok read =>
          simp only [checkRunners, collected, bind, Except.bind] at accepted
          split at accepted
          · cases accepted
          · rename_i noneBlank
            cases accepted
            rw [Bool.not_eq_true, List.any_eq_false] at noneBlank
            exact ⟨entries, read, rfl, readsAs_of_collect collected, rfl, fun entry present =>
              Bool.eq_false_iff.mpr (noneBlank entry present)⟩
  | _ => cases accepted

/-! ## Accepted configurations -/

/-- Entries are accepted as a configuration if they pass the checks of its five fields and none of
them is unknown. -/
theorem checkEntries_eq_ok_iff
    {entries : List (Datum × Datum)}
    {config : Config} :
    checkEntries entries = .ok config ↔
      (∀ entry ∈ entries, isBroken entry.1 = false) ∧
      checkField "show_affordance" true Lenient.checkBool entries = .ok config.showAffordance ∧
      checkField "reuse_executor" true Lenient.checkBool entries = .ok config.reuseExecutor ∧
      checkField "executor_mode" RunMode.file checkMode entries = .ok config.mode ∧
      checkField "timeout" none checkTimeout entries = .ok config.timeout ∧
      checkField "runners" Registry.empty checkRunners entries = .ok config.overrides ∧
      entries.filterMap unknownEntry? = [] := by
  have broken : (entries.any fun entry => isBroken entry.1) = false ↔
      ∀ entry ∈ entries, isBroken entry.1 = false := by
    simp only [List.any_eq_false, Bool.not_eq_true]
  rw [← broken]
  constructor
  · intro accepted
    unfold checkEntries at accepted
    split at accepted
    · cases accepted
    · rename_i noneBroken
      dsimp only at accepted
      split at accepted
      · rename_i shows reuses isMode isTimeout isOverrides noIssue
        cases accepted
        simp only [List.append_eq_nil_iff] at noIssue
        exact ⟨Bool.not_eq_true _ ▸ noneBroken, shows, reuses, isMode, isTimeout, isOverrides,
          noIssue.2⟩
      · cases accepted
  · rintro ⟨noneBroken, shows, reuses, isMode, isTimeout, isOverrides, noneUnknown⟩
    rw [checkEntries, noneBroken, shows, reuses, isMode, isTimeout, isOverrides, noneUnknown]
    rfl

/-- The entries of the runners in the data of a configuration. -/
def runnerEntries : Datum → List (Datum × Datum)
  | .mapping entries =>
      match Datum.field? "runners" entries with
      | some (.mapping runners) => runners
      | _ => []
  | _ => []

/-- The runners of an accepted configuration are made of all entries of the data, and none of their
keys is blank. -/
theorem exists_read_of_check
    {data : Datum}
    {config : Config}
    (accepted : check data = .ok config) :
    ∃ read, List.Forall₂ ReadsAs (runnerEntries data) read ∧
      config.overrides = overridesOf read ∧
      ∀ entry ∈ mappingOf read, Text.isBlankText entry.1 = false := by
  cases data with
  | mapping entries =>
      obtain ⟨-, -, -, -, -, checked, -⟩ := checkEntries_eq_ok_iff.mp accepted
      unfold checkField at checked
      cases found : Datum.field? "runners" entries with
      | none =>
          rw [found] at checked
          exact ⟨[], by simp [runnerEntries, found], (Except.ok.inj checked).symm, nofun⟩
      | some value =>
          rw [found] at checked
          obtain ⟨runners, read, rfl, reads, same, noneBlank⟩ :=
            overrides_of_checkRunners (under_eq_ok_iff.mp checked)
          exact ⟨read, by simpa only [runnerEntries, found] using reads, same, noneBlank⟩
  | _ => cases accepted

theorem overrides_of_check
    {data : Datum}
    {config : Config}
    (accepted : check data = .ok config) :
    ∃ read, List.Forall₂ ReadsAs (runnerEntries data) read ∧ config.overrides = overridesOf read :=
  have ⟨read, reads, same, _⟩ := exists_read_of_check accepted
  ⟨read, reads, same⟩

theorem lowercase_of_mem_overridesOf
    {read : List (String × Runner)}
    {entry : String × Runner}
    (present : entry ∈ (overridesOf read).entries) :
    Text.lowercase entry.1 = entry.1 := by
  rcases Registry.mem_insertAll present with among | nothing
  · obtain ⟨other, -, rfl⟩ := List.mem_map.mp among
    exact Text.lowercase_lowercase _
  · cases nothing

theorem get?_overridesOf (read : List (String × Runner)) (language : String) :
    (overridesOf read).get? language =
      ((mappingOf read).reverse.find? fun entry => languageOfKey entry.1 == language).map
        Prod.snd := by
  rw [overridesOf, Registry.get?_insertAll, ← List.map_reverse, lookup_map_key,
    Registry.get?_empty, Option.or_none]

/-- Every entry of the runners in the data of an accepted configuration is read as a key and a
runner.  The runner of a language is that of the last entry whose key stands for the language,
and the built-in one, if there is one, where no key does.  Entries with distinct keys, as they
are in every mapping whose keys are texts, count as they are; if several keys are read as one
text, they count as one entry. -/
theorem registry_of_check
    {data : Datum}
    {config : Config}
    (accepted : check data = .ok config) :
    ∃ read,
      List.Forall₂ ReadsAs (runnerEntries data) read ∧
      ((read.Pairwise fun first second => first.1 ≠ second.1) → mappingOf read = read) ∧
      ∀ language, config.registry.get? language =
        (((mappingOf read).reverse.find? fun entry => languageOfKey entry.1 == language).map
          Prod.snd).or (Registry.builtin.get? language) := by
  obtain ⟨read, reads, same⟩ := overrides_of_check accepted
  refine ⟨read, reads, mappingOf_of_distinct, fun language => ?_⟩
  have lower : ∀ entry ∈ config.overrides.entries, Text.lowercase entry.1 = entry.1 :=
    fun entry present => lowercase_of_mem_overridesOf (same ▸ present)
  rw [registry, Registry.get?_withOverrides lower, same, get?_overridesOf]

/-- The data of a configuration with two runners for one language, whose name ends in a sigma,
and one for a language that has a built-in runner. -/
def collidingData : Datum :=
  .mapping [(.text "runners", .mapping
    [(.text "ΟΣ ", .mapping
        [(.text "command", .text "first \x7bfile\x7d"), (.text "ext", .text ".a")]),
     (.text "\tος", .mapping
        [(.text "command", .text "second \x7bfile\x7d"), (.text "ext", .text ".b")]),
     (.text "Ruby", .mapping
        [(.text "command", .text "third \x7bfile\x7d"), (.text "ext", .text ".c")])])]

/-- The configuration of these data. -/
def collidingConfig : Config where
  overrides := Registry.empty.insertAll
    [("ος", ⟨"second \x7bfile\x7d", ".b"⟩), ("ruby", ⟨"third \x7bfile\x7d", ".c"⟩)]

/-- The statement on the runners in effect, for these data. -/
theorem registry_of_check_colliding :
    check collidingData = .ok collidingConfig ∧
    collidingConfig.registry.get? "ος" = some ⟨"second \x7bfile\x7d", ".b"⟩ ∧
    ∃ read,
      List.Forall₂ ReadsAs (runnerEntries collidingData) read ∧
      collidingConfig.registry.get? "ος" =
        (((mappingOf read).reverse.find? fun entry => languageOfKey entry.1 == "ος").map
          Prod.snd).or (Registry.builtin.get? "ος") := by
  have accepted : check collidingData = .ok collidingConfig := by decide +kernel
  obtain ⟨read, reads, -, found⟩ := registry_of_check accepted
  exact ⟨accepted, by decide +kernel, read, reads, found "ος"⟩

end Config
end Snippets
