import Mathlib.Data.List.Infix
import Snippets.Proofs.Config.Effective

/-!
# Runners that are accepted

A runner is accepted if its command has a placeholder and its extension starts with a dot and
names no other directory.  Nothing else of the data counts, which makes for a description of the
JSON values that are accepted, and a runner that was accepted is accepted again as it is.
-/

namespace Snippets

namespace Checked

variable {α β : Type}

theorem bind_eq_ok_iff
    {checked : Checked α}
    {next : α → Checked β}
    {result : β} :
    (checked >>= next) = .ok result ↔ ∃ value, checked = .ok value ∧ next value = .ok result := by
  cases checked with
  | ok value => simp [bind, Except.bind]
  | error found => simp [bind, Except.bind]

end Checked

namespace Datum

/-- Whether a value can be written in JSON.  Texts consist of characters, and the keys of a mapping
are distinct texts. -/
inductive IsJson : Datum → Prop where
  /-- No value. -/
  | null : IsJson .null
  /-- A truth value. -/
  | bool (value : Bool) : IsJson (.bool value)
  /-- A whole number. -/
  | int (value : Int) : IsJson (.int value)
  /-- A floating-point number. -/
  | float (value : Number.Binary64) : IsJson (.float value)
  /-- A text. -/
  | text (value : String) : IsJson (.text value)
  /-- Values in order. -/
  | list {items : List Datum} (each : ∀ item ∈ items, IsJson item) : IsJson (.list items)
  /-- Values under distinct texts. -/
  | mapping {entries : List (Datum × Datum)}
      (keys : ∀ entry ∈ entries, ∃ key, entry.1 = .text key)
      (distinct : entries.Pairwise fun first second => first.1 ≠ second.1)
      (values : ∀ entry ∈ entries, IsJson entry.2) :
      IsJson (.mapping entries)

namespace IsJson

variable {entries : List (Datum × Datum)}

theorem keysOf (json : IsJson (.mapping entries)) :
    ∀ entry ∈ entries, ∃ key, entry.1 = .text key := by
  cases json with
  | mapping keys _ _ => exact keys

theorem distinctOf (json : IsJson (.mapping entries)) :
    entries.Pairwise fun first second => first.1 ≠ second.1 := by
  cases json with
  | mapping _ distinct _ => exact distinct

theorem valuesOf (json : IsJson (.mapping entries)) : ∀ entry ∈ entries, IsJson entry.2 := by
  cases json with
  | mapping _ _ values => exact values

end IsJson

/-- An entry with another key is passed over. -/
theorem field?_cons_of_ne
    {name : String}
    {entry : Datum × Datum}
    (differs : entry.1 ≠ .text name)
    (rest : List (Datum × Datum)) :
    field? name (entry :: rest) = field? name rest := by
  unfold field?
  rw [List.find?_cons_of_neg]
  obtain ⟨key, value⟩ := entry
  cases key with
  | text other =>
      have notSame : other ≠ name := fun same => differs (same ▸ rfl)
      simpa using notSame
  | _ => exact Bool.false_ne_true

/-- Under a text is the value of the entry with that key, if no two keys are the same. -/
theorem field?_eq_some_iff
    {entries : List (Datum × Datum)}
    (distinct : entries.Pairwise fun first second => first.1 ≠ second.1)
    {name : String}
    {value : Datum} :
    field? name entries = some value ↔ (.text name, value) ∈ entries := by
  induction entries with
  | nil => simp [field?]
  | cons entry rest inductionHypothesis =>
      obtain ⟨differs, later⟩ := List.pairwise_cons.mp distinct
      obtain ⟨key, given⟩ := entry
      rw [List.mem_cons]
      by_cases same : key = .text name
      · subst same
        have notLater : (Datum.text name, value) ∉ rest := fun present => differs _ present rfl
        rw [or_iff_left notLater]
        simp [field?, eq_comm]
      · have notFirst : (Datum.text name, value) ≠ (key, given) := fun equal =>
          same (Prod.ext_iff.mp equal).1.symm
        rw [field?_cons_of_ne same, inductionHypothesis later, or_iff_right notFirst]

end Datum

open Checked

namespace Runner

/-! ## Placeholders -/

/-- There is at least one piece more than there were. -/
theorem length_lt_length_piecesFrom
    (piece : List Char)
    (found : List (List Char))
    (template : List Char) :
    found.length < (piecesFrom piece found template).length := by
  induction piece, found, template using piecesFrom.induct with
  | case1 piece found => simp [piecesFrom]
  | case2 piece found rest inductionHypothesis =>
      rw [piecesFrom]
      exact Nat.lt_of_succ_lt inductionHypothesis
  | case3 piece found character rest noPlaceholder inductionHypothesis =>
      rw [piecesFrom]
      · exact inductionHypothesis
      · exact noPlaceholder

/-- A template is cut in two or more where it has a placeholder, and only then. -/
theorem piecesFrom_several_iff
    (piece : List Char)
    (found : List (List Char))
    (template : List Char) :
    found.length + 1 < (piecesFrom piece found template).length ↔
      placeholder.toList <:+: template := by
  induction piece, found, template using piecesFrom.induct with
  | case1 piece found => simp [piecesFrom, placeholder]
  | case2 piece found rest inductionHypothesis =>
      rw [piecesFrom]
      refine iff_of_true (length_lt_length_piecesFrom [] (piece.reverse :: found) rest) ?_
      exact (List.prefix_append placeholder.toList rest).isInfix
  | case3 piece found character rest noPlaceholder inductionHypothesis =>
      rw [piecesFrom]
      · rw [inductionHypothesis, List.infix_cons_iff]
        refine (or_iff_right ?_).symm
        rintro ⟨after, same⟩
        exact noPlaceholder after (List.cons.inj same).1.symm (List.cons.inj same).2.symm
      · exact noPlaceholder

theorem hasPlaceholder_iff {template : String} :
    hasPlaceholder template = true ↔ placeholder.toList <:+: template.toList := by
  rw [hasPlaceholder, decide_eq_true_iff]
  exact piecesFrom_several_iff [] [] template.toList

theorem length_pos_of_hasPlaceholder
    {template : String}
    (has : hasPlaceholder template = true) :
    1 ≤ template.length := by
  have longer := (hasPlaceholder_iff.mp has).length_le
  exact Nat.le_trans (by decide) longer

/-! ## What is accepted -/

theorem checkTextOfLength_eq_ok_iff
    {least : Nat}
    {value : Datum}
    {text : String} :
    checkTextOfLength least value = .ok text ↔
      checkText value = .ok text ∧ least ≤ text.length := by
  rw [checkTextOfLength, bind_eq_ok_iff]
  constructor
  · rintro ⟨read, isText, enough⟩
    split at enough
    · cases enough
    · rename_i notShort
      cases enough
      exact ⟨isText, Nat.le_of_not_lt notShort⟩
  · rintro ⟨isText, enough⟩
    exact ⟨text, isText, if_neg (Nat.not_lt.mpr enough)⟩

/-- A command is accepted if it has a placeholder, with which it is long enough. -/
theorem checkCommand_eq_ok_iff
    {value : Datum}
    {command : String} :
    checkCommand value = .ok command ↔
      checkText value = .ok command ∧ hasPlaceholder command = true := by
  rw [checkCommand, bind_eq_ok_iff]
  constructor
  · rintro ⟨read, isText, enough⟩
    split at enough
    · rename_i has
      cases enough
      exact ⟨(checkTextOfLength_eq_ok_iff.mp isText).1, has⟩
    · cases enough
  · rintro ⟨isText, has⟩
    refine ⟨command, checkTextOfLength_eq_ok_iff.mpr ⟨isText, ?_⟩, if_pos has⟩
    exact length_pos_of_hasPlaceholder has

theorem checkExt_eq_ok_iff
    {value : Datum}
    {ext : String} :
    checkExt value = .ok ext ↔
      checkText value = .ok ext ∧ 2 ≤ ext.length ∧ isExtension ext = true := by
  rw [checkExt, bind_eq_ok_iff]
  constructor
  · rintro ⟨read, isText, enough⟩
    split at enough
    · rename_i form
      cases enough
      obtain ⟨text, length⟩ := checkTextOfLength_eq_ok_iff.mp isText
      exact ⟨text, length, form⟩
    · cases enough
  · rintro ⟨isText, length, form⟩
    exact ⟨ext, checkTextOfLength_eq_ok_iff.mpr ⟨isText, length⟩, if_pos form⟩

theorem checkEntry_eq_ok_iff
    {α : Type}
    {name : String}
    {check : Datum → Checked α}
    {entries : List (Datum × Datum)}
    {found : α} :
    checkEntry name check entries = .ok found ↔
      ∃ value, Datum.field? name entries = some value ∧ check value = .ok found := by
  rw [checkEntry, under_eq_ok_iff]
  cases given : Datum.field? name entries with
  | none => simp [fail]
  | some value => simp

theorem check_eq_ok_iff
    {value : Datum}
    {runner : Runner} :
    check value = .ok runner ↔
      ∃ entries, value = .mapping entries ∧
        checkEntry "command" checkCommand entries = .ok runner.command ∧
        checkEntry "ext" checkExt entries = .ok runner.ext := by
  constructor
  · intro accepted
    cases value with
    | mapping entries =>
        refine ⟨entries, rfl, ?_⟩
        unfold check at accepted
        dsimp only at accepted
        split at accepted
        · rename_i command ext isCommand isExt
          cases accepted
          exact ⟨isCommand, isExt⟩
        · cases accepted
    | _ => cases accepted
  · rintro ⟨entries, rfl, isCommand, isExt⟩
    rw [check, isCommand, isExt]

theorem hasPlaceholder_of_check
    {value : Datum}
    {runner : Runner}
    (accepted : check value = .ok runner) :
    hasPlaceholder runner.command = true := by
  obtain ⟨entries, -, isCommand, -⟩ := check_eq_ok_iff.mp accepted
  obtain ⟨given, -, command⟩ := checkEntry_eq_ok_iff.mp isCommand
  exact (checkCommand_eq_ok_iff.mp command).2

theorem isExtension_of_check
    {value : Datum}
    {runner : Runner}
    (accepted : check value = .ok runner) :
    isExtension runner.ext = true := by
  obtain ⟨entries, -, -, isExt⟩ := check_eq_ok_iff.mp accepted
  obtain ⟨given, -, ext⟩ := checkEntry_eq_ok_iff.mp isExt
  exact (checkExt_eq_ok_iff.mp ext).2.2

/-! ## Descriptions of runners -/

/-- Whether a value describes a runner.  Further entries do not matter. -/
def Describes (value : Datum) : Prop :=
  ∃ fields command ext,
    value = .mapping fields ∧
    (.text "command", .text command) ∈ fields ∧ placeholder.toList <:+: command.toList ∧
    (.text "ext", .text ext) ∈ fields ∧ 2 ≤ ext.length ∧ ext.toList.head? = some '.' ∧
    '/' ∉ ext.toList ∧ '\\' ∉ ext.toList

theorem checkText_eq_ok_iff
    {value : Datum}
    (json : value.IsJson)
    {text : String} :
    checkText value = .ok text ↔ value = .text text := by
  cases json <;> simp [checkText, fail]

theorem isExtension_iff {ext : String} :
    isExtension ext = true ↔
      ext.toList.head? = some '.' ∧ '/' ∉ ext.toList ∧ '\\' ∉ ext.toList := by
  simp [isExtension, and_assoc]

/-- A value is accepted as a runner if it describes one. -/
theorem exists_check_eq_ok_iff
    {value : Datum}
    (json : value.IsJson) :
    (∃ runner, check value = .ok runner) ↔ Describes value := by
  constructor
  · rintro ⟨runner, accepted⟩
    obtain ⟨fields, rfl, isCommand, isExt⟩ := check_eq_ok_iff.mp accepted
    obtain ⟨given, found, command⟩ := checkEntry_eq_ok_iff.mp isCommand
    obtain ⟨givenExt, foundExt, ext⟩ := checkEntry_eq_ok_iff.mp isExt
    rw [Datum.field?_eq_some_iff json.distinctOf] at found foundExt
    obtain ⟨isText, has⟩ := checkCommand_eq_ok_iff.mp command
    obtain ⟨isTextExt, length, form⟩ := checkExt_eq_ok_iff.mp ext
    rw [checkText_eq_ok_iff (json.valuesOf _ found)] at isText
    rw [checkText_eq_ok_iff (json.valuesOf _ foundExt)] at isTextExt
    exact ⟨fields, runner.command, runner.ext, rfl, isText ▸ found, hasPlaceholder_iff.mp has,
      isTextExt ▸ foundExt, length, isExtension_iff.mp form⟩
  · rintro ⟨fields, command, ext, rfl, isCommand, has, isExt, length, form⟩
    rw [← Datum.field?_eq_some_iff json.distinctOf] at isCommand isExt
    refine ⟨⟨command, ext⟩, check_eq_ok_iff.mpr ⟨fields, rfl, ?_, ?_⟩⟩
    · exact checkEntry_eq_ok_iff.mpr ⟨_, isCommand,
        checkCommand_eq_ok_iff.mpr ⟨rfl, hasPlaceholder_iff.mpr has⟩⟩
    · exact checkEntry_eq_ok_iff.mpr ⟨_, isExt,
        checkExt_eq_ok_iff.mpr ⟨rfl, length, isExtension_iff.mpr form⟩⟩

/-! ## Runners as data -/

/-- The data of a runner. -/
def datum (runner : Runner) : Datum :=
  .mapping [(.text "command", .text runner.command), (.text "ext", .text runner.ext)]

/-- A runner that was accepted is accepted as it is. -/
theorem check_datum
    {value : Datum}
    {runner : Runner}
    (accepted : check value = .ok runner) :
    check runner.datum = .ok runner := by
  obtain ⟨entries, -, isCommand, isExt⟩ := check_eq_ok_iff.mp accepted
  obtain ⟨_, -, command⟩ := checkEntry_eq_ok_iff.mp isCommand
  obtain ⟨_, -, ext⟩ := checkEntry_eq_ok_iff.mp isExt
  refine check_eq_ok_iff.mpr ⟨_, rfl, ?_, ?_⟩
  · exact checkEntry_eq_ok_iff.mpr
      ⟨_, rfl, checkCommand_eq_ok_iff.mpr ⟨rfl, (checkCommand_eq_ok_iff.mp command).2⟩⟩
  · exact checkEntry_eq_ok_iff.mpr
      ⟨_, rfl, checkExt_eq_ok_iff.mpr ⟨rfl, (checkExt_eq_ok_iff.mp ext).2⟩⟩

end Runner
end Snippets
