import Snippets.Config.Basic
import Snippets.Config.Lenient
import Snippets.Text.Blank

/-!
# Checking a configuration

A configuration is a mapping with five optional entries and no others.  All faults are
reported together: first those of the known entries, in the order in which they are
declared, and then the unknown entries in the order of the data.
-/

namespace Snippets
namespace Config

/-- The name of the schema of a configuration. -/
def schemaName : String := "BlockRunConfig"

/-- The entries that a configuration may have. -/
def fieldNames : List String :=
  ["show_affordance", "reuse_executor", "executor_mode", "timeout", "runners"]

/-- Checks an entry that may be missing. -/
def checkField {α : Type} (name : String) (default : α) (check : Datum → Checked α)
    (entries : List (Datum × Datum)) : Checked α :=
  match Datum.field? name entries with
  | some value => Checked.under (.key name) (check value)
  | none => .ok default

/-- Checks the way in which blocks are run. -/
def checkMode : Datum → Checked RunMode
  | .text name =>
      match RunMode.ofName? name with
      | some mode => .ok mode
      | none => .fail (.notOneOf RunMode.file.name RunMode.shell.name)
  | .brokenText _ => .fail .notUnicode
  | _ => .fail (.notOneOf RunMode.file.name RunMode.shell.name)

/-- Checks a limit on the seconds of a run. -/
def checkTimeout : Datum → Checked (Option Nat)
  | .null => .ok none
  | value => do
      let seconds ← Lenient.checkInt value
      if seconds < 1 then .fail (.tooSmall 1) else .ok (some seconds.toNat)

/-- Takes a key of the runners as a text, whatever its codes are. -/
def checkKey : Datum → Checked String
  | .brokenText codes => .ok (Text.repair codes)
  | key => Runner.checkText key

/-- The issues of an entry of the runners, and the entry itself if there are none. -/
def checkRunner (entry : Datum × Datum) : Checked (String × Runner) :=
  let step := PathStep.ofDatum entry.1
  let key := Checked.under step (Checked.under (.key "[key]") (checkKey entry.1))
  let runner := Checked.under step (Runner.check entry.2)
  match key, runner with
  | .ok language, .ok runner => .ok (language, runner)
  | key, runner => .error (key.issues ++ runner.issues)

/-- All results of checks, or all of their issues. -/
def collect {α : Type} (checks : List (Checked α)) : Checked (List α) :=
  let issues := checks.flatMap Checked.issues
  if issues = [] then .ok (checks.filterMap fun check => check.toOption) else .error issues

/-- The language that a key of the runners stands for. -/
def languageOfKey (key : String) : String :=
  Text.lowercase (Text.strip key)

/-- Checks the runners.  Keys are compared without regard to case and to blank
characters at either end, and none may be blank. -/
def checkRunners : Datum → Checked Registry
  | .mapping entries => do
      let runners ← collect (entries.map checkRunner)
      let distinct := Association.ofList (fun first second => first == second) runners
      if distinct.any (fun entry => Text.isBlankText entry.1) then
        .fail (.refused "Runner language id cannot be empty")
      else
        .ok (Registry.empty.insertAll
          (distinct.map fun entry => (languageOfKey entry.1, entry.2)))
  | _ => .fail .notMapping

/-- The issue with an entry that is none of a configuration's. -/
def unknownEntry? (entry : Datum × Datum) : Option Issue :=
  match entry.1 with
  | .text name =>
      if fieldNames.contains name then none
      else some (Issue.under (.key name) (Issue.here .extra))
  | other => some (Issue.under (PathStep.ofDatum other) (Issue.here .keyNotText))

/-- Whether a value is a text whose codes are not all those of characters. -/
def isBroken : Datum → Bool
  | .brokenText _ => true
  | _ => false

/-- Checks the entries of a configuration.  A key that cannot be compared with the names of
entries is the only fault that is reported. -/
def checkEntries (entries : List (Datum × Datum)) : Checked Config :=
  if entries.any fun entry => isBroken entry.1 then .fail .notUnicode else
  let showAffordance := checkField "show_affordance" true Lenient.checkBool entries
  let reuseExecutor := checkField "reuse_executor" true Lenient.checkBool entries
  let mode := checkField "executor_mode" RunMode.file checkMode entries
  let timeout := checkField "timeout" none checkTimeout entries
  let overrides := checkField "runners" Registry.empty checkRunners entries
  let issues :=
    showAffordance.issues ++ reuseExecutor.issues ++ mode.issues ++ timeout.issues ++
      overrides.issues ++ entries.filterMap unknownEntry?
  match showAffordance, reuseExecutor, mode, timeout, overrides, issues with
  | .ok showAffordance, .ok reuseExecutor, .ok mode, .ok timeout, .ok overrides, [] =>
      .ok ⟨showAffordance, reuseExecutor, mode, timeout, overrides⟩
  | _, _, _, _, _, issues => .error issues

/-- Checks a configuration. -/
def check : Datum → Checked Config
  | .mapping entries => checkEntries entries
  | _ => .fail (.notSchema schemaName)

end Config
end Snippets
