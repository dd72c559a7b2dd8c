import Mathlib.Data.List.Induction
import Mathlib.Data.List.TakeWhile

/-!
# Lists

Facts on lists that hold of whatever they are lists of: where the longest start of elements that
fit comes to its end, what holds of every start of a history, and what is found under a key.
-/

namespace Snippets

/-! ## Starts of elements that fit -/

section

variable {Element : Type}

/-- The longest start of elements that fit ends where one follows that does not. -/
theorem takeWhile_append_of_head?
    {fits : Element → Bool}
    {front back : List Element}
    (ends : ∀ element, back.head? = some element → fits element = false) :
    (front ++ back).takeWhile fits = front.takeWhile fits := by
  induction front with
  | nil =>
      cases back with
      | nil => rfl
      | cons element back => simp [ends element rfl]
  | cons element front inductionHypothesis =>
      rw [List.cons_append, List.takeWhile_cons, List.takeWhile_cons, inductionHypothesis]

/-- The lists of elements that fit at the start of another list are the starts of the longest of
them. -/
theorem prefix_takeWhile_iff
    {fits : Element → Bool}
    {front elements : List Element} :
    front <+: elements.takeWhile fits ↔
      front <+: elements ∧ ∀ element ∈ front, fits element = true := by
  constructor
  · intro starts
    refine ⟨starts.trans (List.takeWhile_prefix _), fun element present => ?_⟩
    exact List.mem_takeWhile_imp (starts.subset present)
  · rintro ⟨⟨rest, rfl⟩, allFit⟩
    rw [List.takeWhile_append_of_pos allFit]
    exact List.prefix_append _ _

variable [DecidableEq Element]

theorem takeWhile_of_not_mem
    {elements : List Element}
    {stop : Element}
    (absent : stop ∉ elements) :
    elements.takeWhile (· ≠ stop) = elements :=
  List.takeWhile_eq_self_iff.mpr fun _ present =>
    decide_eq_true fun same => absent (same ▸ present)

/-- A part without an element ends where the element stands. -/
theorem takeWhile_append_cons
    {front : List Element}
    {stop : Element}
    (absent : stop ∉ front)
    (rest : List Element) :
    (front ++ stop :: rest).takeWhile (· ≠ stop) = front := by
  have ends : ∀ element, (stop :: rest).head? = some element → decide (element ≠ stop) = false := by
    rintro element ⟨⟩
    simp
  rw [takeWhile_append_of_head? ends, takeWhile_of_not_mem absent]

end

/-! ## Histories -/

section

variable {Call : Type}

/-- What happens at the end of a longer history is its end or happened before. -/
theorem concat_prefix_concat
    {past history : List Call}
    {call last : Call}
    (happened : past ++ [call] <+: history ++ [last]) :
    past = history ∧ call = last ∨ past ++ [call] <+: history := by
  rcases List.prefix_concat_iff.mp happened with same | earlier
  · obtain ⟨samePast, sameCall⟩ := List.append_inj' same rfl
    exact .inl ⟨samePast, List.singleton_inj.mp sameCall⟩
  · exact .inr earlier

/-- What holds before a history and is kept by each call of it holds all along. -/
theorem of_prefix
    {history : List Call}
    {motive : List Call → Prop}
    (first : motive [])
    (next : ∀ past call, past ++ [call] <+: history → motive past → motive (past ++ [call]))
    {past : List Call}
    (happened : past <+: history) :
    motive past := by
  induction past using List.reverseRecOn with
  | nil => exact first
  | append_singleton past call inductionHypothesis =>
      have before := (List.prefix_append past [call]).trans happened
      exact next past call happened (inductionHypothesis before)

end

/-! ## Entries with distinct keys -/

section

variable {Key Value : Type} [DecidableEq Key]

theorem lookup_cons_eq_ite
    (key : Key)
    (entry : Key × Value)
    (rest : List (Key × Value)) :
    (entry :: rest).lookup key = if key = entry.1 then some entry.2 else rest.lookup key := by
  rw [List.lookup_cons]
  by_cases same : key = entry.1
  · simp [same]
  · rw [beq_eq_false_iff_ne.mpr same, if_neg same]

/-- What is found under a key that no other entry has is the value of its entry. -/
theorem lookup_eq_some_iff_mem
    {entries : List (Key × Value)}
    (distinct : entries.Pairwise fun first second => first.1 ≠ second.1)
    {key : Key}
    {value : Value} :
    entries.lookup key = some value ↔ (key, value) ∈ entries := by
  induction entries with
  | nil => simp
  | cons entry rest inductionHypothesis =>
      obtain ⟨differs, later⟩ := List.pairwise_cons.mp distinct
      rw [lookup_cons_eq_ite, List.mem_cons, Prod.ext_iff]
      by_cases same : key = entry.1
      · have notLater : (key, value) ∉ rest := fun present => differs _ present same.symm
        rw [if_pos same, Option.some.injEq, or_iff_left notLater, and_iff_right same]
        exact eq_comm
      · rw [if_neg same, inductionHypothesis later, or_iff_right fun both => same both.1]

/-- Entries with distinct keys may as well be searched from their end. -/
theorem lookup_reverse
    {entries : List (Key × Value)}
    (distinct : entries.Pairwise fun first second => first.1 ≠ second.1)
    (key : Key) :
    entries.reverse.lookup key = entries.lookup key := by
  have distinctToo : entries.reverse.Pairwise fun first second => first.1 ≠ second.1 :=
    List.pairwise_reverse.mpr (distinct.imp Ne.symm)
  ext value
  rw [lookup_eq_some_iff_mem distinct, lookup_eq_some_iff_mem distinctToo, List.mem_reverse]

/-- Entries whose keys were changed are found by what their keys were changed to. -/
theorem lookup_map_key
    (change : Key → Key)
    (entries : List (Key × Value))
    (key : Key) :
    (entries.map fun entry => (change entry.1, entry.2)).lookup key =
      (entries.find? fun entry => change entry.1 == key).map Prod.snd := by
  induction entries with
  | nil => rfl
  | cons entry rest inductionHypothesis =>
      rw [List.map_cons, List.lookup_cons, List.find?_cons, BEq.comm]
      cases change entry.1 == key with
      | true => rfl
      | false => exact inductionHypothesis

end

end Snippets
