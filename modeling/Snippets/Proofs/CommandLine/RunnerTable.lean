import Snippets.CommandLine.Execution
import Snippets.Proofs.Config.Effective

/-!
# The table of runners

A row of the table of runners says whether its runner is a choice of the user.  It looks at the keys
of the configuration for that, while the runner comes from the registry, in which these keys are
brought into lower case once more.  The main statement says that the two agree: the rows are those
of the runners in effect, in ascending order, and a row says of its runner where it comes from.
-/

namespace Snippets

/-- The languages of a registry ascend. -/
theorem Registry.languages_pairwise (registry : Registry) : registry.languages.Pairwise (· < ·) :=
  List.pairwise_map.mpr registry.ordered

namespace CommandLine
namespace RunnerRow

variable {config : Config} {row : RunnerRow}

theorem ofLanguage?_eq_some_iff {language : String} :
    ofLanguage? config language = some row ↔
      row.language = language ∧ config.registry.get? language = some row.runner ∧
        row.isChosen = config.overrides.contains language := by
  simp only [ofLanguage?, Option.map_eq_some_iff]
  constructor
  · rintro ⟨runner, found, rfl⟩
    exact ⟨rfl, found, rfl⟩
  · rintro ⟨rfl, found, chosen⟩
    exact ⟨row.runner, found, by rw [← chosen]⟩

/-- There is one row for each language of the registry in effect, in the same order. -/
theorem map_language_ofConfig (config : Config) :
    (ofConfig config).map language = config.registry.languages := by
  rw [ofConfig, List.map_filterMap]
  refine (List.filterMap_congr fun language present => ?_).trans List.filterMap_some
  obtain ⟨runner, found⟩ := Option.isSome_iff_exists.mp
    (Registry.contains_iff_mem_languages.mpr present)
  rw [ofLanguage?, found]
  rfl

/-- A row shows the runner in effect for its language, and is marked if the user has chosen one. -/
theorem of_mem_ofConfig (present : row ∈ ofConfig config) :
    config.registry.get? row.language = some row.runner ∧
      row.isChosen = config.overrides.contains row.language := by
  obtain ⟨language, -, isRow⟩ := List.mem_filterMap.mp present
  obtain ⟨rfl, found, chosen⟩ := ofLanguage?_eq_some_iff.mp isRow
  exact ⟨found, chosen⟩

/-- The words for where a runner comes from. -/
def source (row : RunnerRow) : String :=
  if row.isChosen then "config" else "built-in"

theorem cells_eq (row : RunnerRow) :
    row.cells = [row.language, row.runner.command, row.runner.ext, row.source] := rfl

theorem source_eq_config_iff : row.source = "config" ↔ row.isChosen = true := by
  unfold source
  cases row.isChosen <;> decide

theorem source_eq_builtin_iff : row.source = "built-in" ↔ row.isChosen = false := by
  unfold source
  cases row.isChosen <;> decide

/-- Whether a row is true of the entries that were read from a configuration, the last of which
counts for its language, and of the built-in runners. -/
structure IsTrueOf (entries : List (String × Runner)) (row : RunnerRow) : Prop where
  /-- The mark of a chosen runner says that an entry stands for the language. -/
  chosen_iff : row.source = "config" ↔
    ∃ entry ∈ entries, Config.languageOfKey entry.1 = row.language
  /-- A chosen runner is shown as it is in the last such entry. -/
  chosen : row.source = "config" →
    ∃ entry, entries.reverse.find? (fun entry => Config.languageOfKey entry.1 == row.language) =
        some entry ∧
      row.cells = [row.language, entry.2.command, entry.2.ext, "config"]
  /-- Any other runner is the built-in one and shown as it is. -/
  builtin : row.source ≠ "config" →
    ∃ runner, Registry.builtin.get? row.language = some runner ∧
      row.cells = [row.language, runner.command, runner.ext, "built-in"]

/-- A row is true of the configuration that it is made for. -/
theorem isTrueOf_of_mem_ofConfig
    {read : List (String × Runner)}
    (made : config.overrides = Config.overridesOf read)
    (present : row ∈ ofConfig config) :
    row.IsTrueOf (Config.mappingOf read) := by
  obtain ⟨found, chosen⟩ := of_mem_ofConfig present
  have lower : ∀ entry ∈ config.overrides.entries, Text.lowercase entry.1 = entry.1 :=
    fun entry present => Config.lowercase_of_mem_overridesOf (made ▸ present)
  rw [Config.registry, Registry.get?_withOverrides lower] at found
  rw [Registry.contains] at chosen
  rw [made, Config.get?_overridesOf] at found chosen
  cases last : (Config.mappingOf read).reverse.find?
      (fun entry => Config.languageOfKey entry.1 == row.language) with
  | none =>
      rw [last] at found chosen
      have unmarked : row.source = "built-in" := source_eq_builtin_iff.mpr chosen
      have noEntry : ∀ entry ∈ Config.mappingOf read,
          Config.languageOfKey entry.1 ≠ row.language := by
        simpa using last
      refine ⟨?_, ?_, fun _ => ⟨row.runner, found, by rw [cells_eq, unmarked]⟩⟩
      · rw [unmarked]
        refine iff_of_false (by decide) ?_
        rintro ⟨entry, among, same⟩
        exact noEntry entry among same
      · exact fun marked => absurd (unmarked.symm.trans marked) (by decide)
  | some entry =>
      rw [last] at found chosen
      have marked : row.source = "config" := source_eq_config_iff.mpr chosen
      have shown : row.runner = entry.2 := (Option.some.inj found).symm
      have among : entry ∈ Config.mappingOf read :=
        List.mem_reverse.mp (List.mem_of_find?_eq_some last)
      have same : Config.languageOfKey entry.1 = row.language := by
        simpa using List.find?_some last
      refine ⟨iff_of_true marked ⟨entry, among, same⟩, fun _ => ⟨entry, last, ?_⟩,
        fun unmarked => absurd marked unmarked⟩
      rw [cells_eq, marked, shown]

end RunnerRow

/-- Every accepted configuration is read entry by entry, and the rows of the table that is shown for
it are true of these entries.  Their languages ascend strictly and are those of the runners in
effect.  Entries with distinct keys count as they are; if several keys are read as one text, they
count as one entry. -/
theorem runner_rows_true
    {data : Datum}
    {config : Config}
    (accepted : Config.check data = .ok config) :
    (∀ environment path, loadConfig environment path = .ok config →
      showRunners environment path =
        tableReport RunnerRow.columns ((RunnerRow.ofConfig config).map RunnerRow.cells)) ∧
    ((RunnerRow.ofConfig config).map RunnerRow.language).Pairwise (· < ·) ∧
    (∀ language, language ∈ (RunnerRow.ofConfig config).map RunnerRow.language ↔
      config.registry.contains language = true) ∧
    ∃ read,
      List.Forall₂ Config.ReadsAs (Config.runnerEntries data) read ∧
      ((read.Pairwise fun first second => first.1 ≠ second.1) → Config.mappingOf read = read) ∧
      ∀ row ∈ RunnerRow.ofConfig config, row.IsTrueOf (Config.mappingOf read) := by
  obtain ⟨read, reads, made⟩ := Config.overrides_of_check accepted
  rw [RunnerRow.map_language_ofConfig]
  refine ⟨fun environment path loads => ?_, config.registry.languages_pairwise,
    fun language => Registry.contains_iff_mem_languages.symm, read, reads,
    Config.mappingOf_of_distinct, fun row => RunnerRow.isTrueOf_of_mem_ofConfig made⟩
  rw [showRunners, loads]

/-- The statement on the table of runners, for a configuration with two runners for one language,
whose row shows the later one. -/
theorem runner_rows_true_colliding :
    Config.check Config.collidingData = .ok Config.collidingConfig ∧
    ⟨"ος", ⟨"second \x7bfile\x7d", ".b"⟩, true⟩ ∈ RunnerRow.ofConfig Config.collidingConfig ∧
    ⟨"go", ⟨"go run \"\x7bfile\x7d\"", ".go"⟩, false⟩ ∈ RunnerRow.ofConfig Config.collidingConfig ∧
    ((RunnerRow.ofConfig Config.collidingConfig).map RunnerRow.language).Pairwise (· < ·) ∧
    ∃ read,
      List.Forall₂ Config.ReadsAs (Config.runnerEntries Config.collidingData) read ∧
      ∀ row ∈ RunnerRow.ofConfig Config.collidingConfig,
        row.IsTrueOf (Config.mappingOf read) := by
  have accepted : Config.check Config.collidingData = .ok Config.collidingConfig := by
    decide +kernel
  obtain ⟨-, ascending, -, read, reads, -, isTrue⟩ := runner_rows_true accepted
  exact ⟨accepted, by decide +kernel, by decide +kernel, ascending, read, reads, isTrue⟩

end CommandLine
end Snippets
