import Snippets.Proofs.Config.Schema
import Snippets.Proofs.Execution.MachineShells
import Snippets.Proofs.Execution.Pools

/-!
# Configurations that are checked again

A configuration can be written down as data, its runners in any order.  The main statement says
that the data of a configuration that was accepted are accepted as the same configuration, because
nothing that the checks make of a value is changed when it is checked again.
-/

namespace Snippets

open Checked

/-! ## Values that entries have -/

theorem Association.exists_mem_of_mem_put
    {κ α : Type}
    {same : κ → κ → Bool}
    {key : κ}
    {value : α}
    {entries : List (κ × α)}
    {entry : κ × α}
    (present : entry ∈ put same key value entries) :
    entry.2 = value ∨ ∃ other ∈ entries, other.2 = entry.2 := by
  induction entries with
  | nil => exact .inl (List.mem_singleton.mp present ▸ rfl)
  | cons first rest inductionHypothesis =>
      unfold put at present
      split at present
      · rcases List.mem_cons.mp present with rfl | later
        · exact .inl rfl
        · exact .inr ⟨entry, List.mem_cons_of_mem first later, rfl⟩
      · rcases List.mem_cons.mp present with rfl | later
        · exact .inr ⟨entry, List.mem_cons_self, rfl⟩
        · refine (inductionHypothesis later).imp_right ?_
          rintro ⟨other, among, equal⟩
          exact ⟨other, List.mem_cons_of_mem first among, equal⟩

/-- Every value was put in under some key. -/
theorem Association.exists_mem_of_mem_ofList
    {κ α : Type}
    {same : κ → κ → Bool}
    {entries : List (κ × α)}
    {entry : κ × α}
    (present : entry ∈ ofList same entries) :
    ∃ other ∈ entries, other.2 = entry.2 := by
  induction entries using List.reverseRecOn generalizing entry with
  | nil => cases present
  | append_singleton entries last inductionHypothesis =>
      rw [ofList, List.foldl_append, ← ofList] at present
      rcases exists_mem_of_mem_put present with equal | ⟨other, among, equal⟩
      · exact ⟨last, List.mem_append_right entries (List.mem_singleton_self last), equal.symm⟩
      · obtain ⟨earlier, before, isValue⟩ := inductionHypothesis among
        exact ⟨earlier, List.mem_append_left [last] before, isValue.trans equal⟩

namespace Config

/-! ## Configurations as data -/

/-- The data of a configuration, with its runners in some order. -/
def datumWith (runners : List (String × Runner)) (config : Config) : Datum :=
  .mapping
    [(.text "show_affordance", .bool config.showAffordance),
     (.text "reuse_executor", .bool config.reuseExecutor),
     (.text "executor_mode", .text config.mode.name),
     (.text "timeout", config.timeout.elim .null fun seconds => .int seconds),
     (.text "runners", .mapping (runners.map fun entry => (.text entry.1, entry.2.datum)))]

/-! ## Limits -/

theorem checkTimeout_datum
    {limit : Option Nat}
    (enough : ∀ seconds, limit = some seconds → 1 ≤ seconds) :
    checkTimeout (limit.elim .null fun seconds => .int seconds) = .ok limit := by
  cases limit with
  | none => rfl
  | some seconds =>
      refine checkTimeout_eq_ok_iff.mpr (.inr ⟨seconds, rfl, ?_, rfl⟩)
      exact Int.ofNat_le.mpr (enough seconds rfl)

theorem one_le_timeout
    {entries : List (Datum × Datum)}
    {limit : Option Nat}
    (accepted : checkField "timeout" none checkTimeout entries = .ok limit)
    {seconds : Nat}
    (limited : limit = some seconds) :
    1 ≤ seconds := by
  subst limited
  unfold checkField at accepted
  split at accepted
  · rcases checkTimeout_eq_ok_iff.mp (under_eq_ok_iff.mp accepted) with
      ⟨-, none⟩ | ⟨_, -, least, same⟩
    · cases none
    · have := Option.some.inj same
      omega
  · cases accepted

/-! ## Keys and overrides -/

/-- The language that a key stands for stands for itself. -/
theorem languageOfKey_languageOfKey (key : String) :
    languageOfKey (languageOfKey key) = languageOfKey key := by
  rw [languageOfKey, languageOfKey, Text.strip_lowercase_strip, Text.lowercase_lowercase]

theorem isBlankText_languageOfKey
    {key : String}
    (notBlank : Text.isBlankText key = false) :
    Text.isBlankText (languageOfKey key) = false := by
  rw [not_isBlankText_iff] at notBlank ⊢
  rw [languageOfKey, Text.strip_lowercase_strip]
  exact Text.lowercase_ne_empty notBlank

/-- Whether an override stays as it is when it is checked again. -/
structure IsSettled (entry : String × Runner) : Prop where
  /-- The key is the language that it stands for. -/
  key : languageOfKey entry.1 = entry.1
  /-- The key is not blank. -/
  notBlank : Text.isBlankText entry.1 = false
  /-- The runner is accepted as it is. -/
  runner : Runner.check entry.2.datum = .ok entry.2

theorem isSettled_of_mem_overrides
    {data : Datum}
    {config : Config}
    (accepted : check data = .ok config)
    {entry : String × Runner}
    (present : entry ∈ config.overrides.entries) :
    IsSettled entry := by
  obtain ⟨read, reads, same, noneBlank⟩ := exists_read_of_check accepted
  rw [same] at present
  rcases Registry.mem_insertAll present with among | nothing
  · obtain ⟨kept, isKept, rfl⟩ := List.mem_map.mp among
    obtain ⟨found, isRead, equal⟩ := Association.exists_mem_of_mem_ofList isKept
    obtain ⟨given, -, -, isRunner⟩ := exists_related_of_mem reads.flip isRead
    exact ⟨languageOfKey_languageOfKey _, isBlankText_languageOfKey (noneBlank kept isKept),
      Runner.check_datum (equal ▸ isRunner)⟩
  · cases nothing

/-- The data of overrides that are settled, in any order, are read as these overrides. -/
theorem checkRunners_datum
    {overrides : Registry}
    (settled : ∀ entry ∈ overrides.entries, IsSettled entry)
    {runners : List (String × Runner)}
    (sameRunners : runners.Perm overrides.entries) :
    checkRunners (.mapping (runners.map fun entry => (.text entry.1, entry.2.datum))) =
      .ok overrides := by
  have settled (entry : String × Runner) (present : entry ∈ runners) : IsSettled entry :=
    settled entry (sameRunners.mem_iff.mp present)
  have distinct : runners.Pairwise fun first second => first.1 ≠ second.1 :=
    (sameRunners.pairwise_iff Ne.symm).mpr overrides.distinct
  have reads : List.Forall₂ ReadsAs
      (runners.map fun entry => (.text entry.1, entry.2.datum)) runners := by
    rw [List.forall₂_map_left_iff, List.forall₂_same]
    exact fun entry present => ⟨rfl, (settled entry present).runner⟩
  have keys : runners.map (fun entry => (languageOfKey entry.1, entry.2)) = runners := by
    refine (List.map_congr_left fun entry present => ?_).trans (List.map_id _)
    rw [(settled entry present).key]
    rfl
  have same : overridesOf runners = overrides := by
    rw [overridesOf, mappingOf_of_distinct distinct, keys]
    refine Registry.ext_get? fun language => ?_
    rw [Registry.get?_insertAll, lookup_reverse distinct, Registry.get?_empty, Option.or_none]
    ext runner
    rw [lookup_eq_some_iff_mem distinct, Registry.get?,
      lookup_eq_some_iff_mem overrides.distinct, sameRunners.mem_iff]
  rw [checkRunners_of_readsAs reads, same]
  rw [mappingOf_of_distinct distinct]
  exact fun entry present => (settled entry present).notBlank

/-- The data of an accepted configuration are accepted as this configuration. -/
theorem check_datumWith_self
    {data : Datum}
    {config : Config}
    (accepted : check data = .ok config)
    {runners : List (String × Runner)}
    (sameRunners : runners.Perm config.overrides.entries) :
    check (config.datumWith runners) = .ok config := by
  have overrides := checkRunners_datum (fun _ => isSettled_of_mem_overrides accepted) sameRunners
  cases data with
  | mapping entries =>
      obtain ⟨-, -, -, -, isTimeout, -, -⟩ := checkEntries_eq_ok_iff.mp accepted
      refine checkEntries_eq_ok_iff.mpr ⟨?_, rfl, rfl, ?_, ?_, ?_, rfl⟩
      · simp [isBroken]
      · exact under_eq_ok_iff.mpr (checkMode_eq_ok_iff.mpr rfl)
      · exact under_eq_ok_iff.mpr (checkTimeout_datum fun _ => one_le_timeout isTimeout)
      · exact under_eq_ok_iff.mpr overrides
  | _ => cases accepted

end Config

/-- An executor that is handed out for a configuration that allows sharing is the shared one and
was made from the configuration. -/
theorem Pool.shared_of_acquire
    {State : Type}
    {host : Host State}
    {config : Config}
    {pool pool' : Pool}
    {state state' : State}
    {number : Nat}
    (shares : config.reuseExecutor = true)
    (handed : pool.acquire host config state = (.ok number, pool', state')) :
    pool'.shared = some number ∧
      (pool'.executor? number).bind Executor.config = some config := by
  have new (pool : Pool) :
      ((pool.share config).2.executor? (pool.share config).1).bind Executor.config =
        some config := by
    have found : (pool.share config).2.executor? (pool.share config).1 =
        some (Executor.ofConfig config) :=
      executor?_add_self (Executor.ofConfig config) pool
    rw [found]
    rfl
  unfold acquire at handed
  rw [shares] at handed
  dsimp only at handed
  split at handed
  · rename_i apart
    cases apart
  · split at handed
    · cases handed
      exact ⟨rfl, new pool⟩
    · rename_i shared isShared
      split at handed
      · rename_i fits
        cases handed
        rw [Bool.and_eq_true, beq_iff_eq] at fits
        exact ⟨isShared, fits.2⟩
      · split at handed
        · cases handed
        · cases handed
          exact ⟨rfl, new _⟩

namespace Config

/-- The data of a configuration that was accepted, with its runners in any order, are accepted as an
equal configuration with the same runners in effect.  An executor that was handed out for the one
is handed out for the other as long as it is open, if sharing is allowed. -/
theorem check_datumWith
    {data : Datum}
    {config : Config}
    (accepted : check data = .ok config)
    {runners : List (String × Runner)}
    (sameRunners : runners.Perm config.overrides.entries) :
    ∃ again,
      check (config.datumWith runners) = .ok again ∧
      again = config ∧
      again.registry = config.registry ∧
      ∀ {State : Type} (host : Host State) (pool pool' : Pool) (state state' later : State)
        (number : Nat),
        config.reuseExecutor = true →
        pool.acquire host config state = (.ok number, pool', state') →
        (pool'.isClosed host number later).1 = false →
        (pool'.acquire host again later).1 = .ok number := by
  refine ⟨config, check_datumWith_self accepted sameRunners, rfl, rfl, ?_⟩
  intro State host pool pool' state state' later number shares handed isOpen
  obtain ⟨isShared, sameConfig⟩ := Pool.shared_of_acquire shares handed
  rw [Pool.acquire_kept shares isShared sameConfig isOpen]

/-- The data of a configuration none of which is in the form in which it is kept. -/
def lenientData : Datum :=
  .mapping
    [(.text "runners", .mapping
      [(.text " ΟΣ", .mapping
        [(.text "name", .null),
         (.text "ext", .text ".a"), (.text "command", .text "first {file}")]),
       (.text "Ruby	", .mapping
        [(.text "command", .text "second {file}"), (.text "ext", .text ".b")]),
       (.text "ος", .mapping
        [(.text "command", .text "third {file}"), (.text "ext", .text ".c")])]),
     (.text "timeout", .text " +0_60.0 "),
     (.text "executor_mode", .text "shell"),
     (.text "show_affordance", .text "OFF")]

/-- The configuration of these data. -/
def lenientConfig : Config where
  showAffordance := false
  mode := .shell
  timeout := some 60
  overrides := Registry.empty.insertAll
    [("ος", ⟨"third {file}", ".c"⟩), ("ruby", ⟨"second {file}", ".b"⟩)]

/-- The statement on configurations that are checked again, for these data. -/
theorem check_datumWith_lenient :
    check lenientData = .ok lenientConfig ∧
    ∃ again,
      check (lenientConfig.datumWith lenientConfig.overrides.entries.reverse) = .ok again ∧
      again = lenientConfig ∧
      again.registry = lenientConfig.registry ∧
      ((Pool.empty.share lenientConfig).2.acquire Machine.host again (.withWorkers [])).1 =
        .ok 0 := by
  have accepted : check lenientData = .ok lenientConfig := by decide +kernel
  obtain ⟨again, acceptedAgain, same, sameRegistry, kept⟩ :=
    check_datumWith accepted (List.reverse_perm lenientConfig.overrides.entries)
  exact ⟨accepted, again, acceptedAgain, same, sameRegistry,
    kept Machine.host Pool.empty _ (.withWorkers []) _ _ 0 rfl rfl rfl⟩

end Config
end Snippets
