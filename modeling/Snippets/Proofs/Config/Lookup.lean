import Snippets.Proofs.Lists
import Snippets.Registry

/-!
# Looking runners up

A runner that is put under a language is found there, and the runners of all other languages
stay.  Of several runners that are put under one language one after the other, the last is found.
-/

namespace Snippets

namespace Registry

theorem lookup_insertEntry
    (language : String)
    (runner : Runner)
    (entries : List (String × Runner))
    (other : String) :
    (insertEntry language runner entries).lookup other =
      if other = language then some runner else entries.lookup other := by
  induction entries with
  | nil => rw [insertEntry, lookup_cons_eq_ite]
  | cons entry rest inductionHypothesis =>
      unfold insertEntry
      split
      · rw [lookup_cons_eq_ite]
      · split
        · rename_i replaces
          rw [lookup_cons_eq_ite, lookup_cons_eq_ite, ← replaces]
          by_cases same : other = language <;> simp [same]
        · rename_i differs
          rw [lookup_cons_eq_ite, inductionHypothesis, lookup_cons_eq_ite]
          by_cases first : other = entry.1
          · have notSame : other ≠ language := fun same => differs (same.symm.trans first)
            rw [if_pos first, if_neg notSame, if_pos first]
          · rw [if_neg first, if_neg first]

@[simp] theorem get?_empty (language : String) : empty.get? language = none := rfl

@[simp] theorem get?_insert
    (registry : Registry)
    (language : String)
    (runner : Runner)
    (other : String) :
    (registry.insert language runner).get? other =
      if other = language then some runner else registry.get? other :=
  lookup_insertEntry language runner registry.entries other

theorem contains_iff_mem_languages {registry : Registry} {language : String} :
    registry.contains language = true ↔ language ∈ registry.languages := by
  rw [contains, get?, Option.isSome_iff_ne_none, ne_eq, List.lookup_eq_none_iff, languages,
    List.mem_map]
  push Not
  simp only [bne_iff_ne, ne_eq, Decidable.not_not]
  exact exists_congr fun entry => and_congr_right fun _ => eq_comm

@[simp] theorem contains_insert
    (registry : Registry)
    (language : String)
    (runner : Runner)
    (other : String) :
    (registry.insert language runner).contains other =
      (decide (other = language) || registry.contains other) := by
  rw [contains, get?_insert]
  split
  · rename_i same
    simp [same]
  · rename_i differs
    simp [differs, contains]

/-- Of the runners that are put under a language, the last is found. -/
theorem get?_insertAll
    (registry : Registry)
    (runners : List (String × Runner))
    (language : String) :
    (registry.insertAll runners).get? language =
      (runners.reverse.lookup language).or (registry.get? language) := by
  induction runners using List.reverseRecOn with
  | nil => rfl
  | append_singleton runners entry inductionHypothesis =>
      have last : registry.insertAll (runners ++ [entry]) =
          (registry.insertAll runners).insert entry.1 entry.2 := by
        simp [insertAll]
      rw [last, get?_insert, inductionHypothesis, List.reverse_concat, lookup_cons_eq_ite]
      by_cases same : language = entry.1 <;> simp [same]

/-- An entry after some were put in is one of these or was there before. -/
theorem mem_insertAll
    {registry : Registry}
    {runners : List (String × Runner)}
    {entry : String × Runner}
    (present : entry ∈ (registry.insertAll runners).entries) :
    entry ∈ runners ∨ entry ∈ registry.entries := by
  induction runners generalizing registry with
  | nil => exact .inr present
  | cons first rest inductionHypothesis =>
      have after : entry ∈ ((registry.insert first.1 first.2).insertAll rest).entries := present
      rcases inductionHypothesis after with later | before
      · exact .inl (List.mem_cons_of_mem _ later)
      · rcases mem_insertEntry before with same | old
        · exact .inl (same ▸ List.mem_cons_self)
        · exact .inr old

/-- No language has two entries. -/
theorem distinct (registry : Registry) :
    registry.entries.Pairwise fun first second => first.1 ≠ second.1 := by
  refine registry.ordered.imp fun {first second} before same => ?_
  exact String.lt_irrefl second.1 (same ▸ before)

/-- Registries in which the same is found are the same. -/
theorem ext_get?
    {first second : Registry}
    (same : ∀ language, first.get? language = second.get? language) :
    first = second := by
  have distinct (registry : Registry) : registry.entries.Nodup :=
    registry.distinct.imp fun differs equal => differs (congrArg Prod.fst equal)
  have found {registry : Registry} {entry : String × Runner} :
      entry ∈ registry.entries ↔ registry.get? entry.1 = some entry.2 :=
    (lookup_eq_some_iff_mem registry.distinct).symm
  have permuted : first.entries.Perm second.entries := by
    rw [List.perm_ext_iff_of_nodup (distinct first) (distinct second)]
    exact fun entry => by rw [found, found, same]
  have equal : first.entries = second.entries := by
    refine permuted.eq_of_pairwise ?_ first.ordered second.ordered
    exact fun _ _ _ _ before after => absurd before (String.lt_asymm after)
  cases first
  cases second
  simpa only [mk.injEq] using equal

/-- What is found in the registry in effect, if the languages of all overrides are in lower
case. -/
theorem get?_withOverrides
    {overrides : Registry}
    (lower : ∀ entry ∈ overrides.entries, Text.lowercase entry.1 = entry.1)
    (language : String) :
    (withOverrides overrides.entries).get? language =
      (overrides.get? language).or (builtin.get? language) := by
  have same : overrides.entries.map (fun entry => (Text.lowercase entry.1, entry.2)) =
      overrides.entries := by
    refine (List.map_congr_left fun entry present => ?_).trans (List.map_id _)
    rw [lower entry present]
    rfl
  rw [withOverrides, same, get?_insertAll, lookup_reverse overrides.distinct, ← get?]

end Registry
end Snippets
