import Snippets.Execution.Executor
import Snippets.Proofs.Execution.Shells

/-!
# Sessions that carry out texts

A session carries out the texts that it was sent one after the other until its shell exits, and
the rest never.  A text that was sent for a temporary file removes the file at its end.

A desk is a small host of this kind: it has files, and shells that carry out whole texts, of which
it knows nothing but the file that is removed at their end.  A shell that is told to end does so at
once.
-/

namespace Snippets

open ShellStatus (Advances)

/-- What is to be seen of files and sessions in the states of a host. -/
structure Sight (State : Type) where
  /-- How far a shell has come. -/
  status : State → Nat → ShellStatus
  /-- Whether there is a file at a path. -/
  stands : State → String → Prop
  /-- The texts that a shell was sent, the first one first. -/
  texts : State → Nat → List String
  /-- The number of texts that a shell has carried out. -/
  carried : State → Nat → Nat
  /-- Whether the file at a path is gone when a text has been carried out. -/
  clears : String → String → Prop

namespace Sight

variable {State : Type} {sight : Sight State}

/-- Whether a text that removes the file at a path is among those that a shell carries out from
one number of them to another. -/
def Clears
    (sight : Sight State)
    (state : State)
    (shell first last : Nat)
    (path : String) : Prop :=
  ∃ index text, first ≤ index ∧ index < last ∧ (sight.texts state shell)[index]? = some text ∧
    sight.clears text path

/-- Whether a text that was carried out removes the file at a path. -/
def Cleared (sight : Sight State) (state : State) (path : String) : Prop :=
  ∃ shell, sight.Clears state shell 0 (sight.carried state shell) path

/-- Whether time may lead from one state to another: shells exit and do not come back, they carry
out texts unless they have exited, and a file goes when a text is carried out that removes it. -/
structure Proceeds (sight : Sight State) (before after : State) : Prop where
  advances : Advances (sight.status before) (sight.status after)
  texts : sight.texts after = sight.texts before
  carries : ∀ shell, sight.carried before shell ≤ sight.carried after shell
  stops : ∀ shell, sight.status before shell = .exited →
    sight.carried after shell = sight.carried before shell
  stands : ∀ path, sight.stands after path ↔
    sight.stands before path ∧
      ∀ shell, ¬sight.Clears before shell (sight.carried before shell)
        (sight.carried after shell) path

/-- Whether a step makes the file at a path, and nothing else. -/
structure Makes (sight : Sight State) (path : String) (before after : State) : Prop where
  texts : sight.texts after = sight.texts before
  carried : sight.carried after = sight.carried before
  stands : ∀ other, sight.stands after other ↔ other = path ∨ sight.stands before other

/-- Whether a step puts a text behind those that a shell was sent, and does nothing else. -/
structure Queues
    (sight : Sight State)
    (shell : Nat)
    (text : String)
    (before after : State) : Prop where
  texts : sight.texts after shell = sight.texts before shell ++ [text]
  others : ∀ other, other ≠ shell → sight.texts after other = sight.texts before other
  carried : sight.carried after = sight.carried before
  stands : sight.stands after = sight.stands before

end Sight

/-- A host serves sessions that carry out their texts in order: a text that ends in the removal
of a file removes it, and the steps of the host are what they are called. -/
structure Host.Serves {State : Type} (host : Host State) (sight : Sight State) : Prop where
  removes (runner : Runner) (path : String) :
    sight.clears (Executor.sessionCommand runner path) path
  bounded (state : State) (shell : Nat) :
    sight.carried state shell ≤ (sight.texts state shell).length
  createFile (ext content path : String) (before after : State) :
    host.createFile ext content before = (.ok path, after) → sight.Makes path before after
  isRunning (shell : Nat) (answer : Bool) (before after : State) :
    host.isRunning shell before = (answer, after) → sight.Proceeds before after
  startShell (name : String) (answer : Except ShellFailure Nat) (before after : State) :
    host.startShell name before = (answer, after) → sight.Proceeds before after
  writeShell (shell : Nat) (text : String) (before after : State) :
    host.writeShell shell text before = (.ok (), after) → sight.Queues shell text before after
  endShell (shell : Nat) (limit : Option Seconds) (before after : State) :
    host.endShell shell limit before = (.ok (), after) →
      sight.Proceeds before after ∧ sight.status after shell = .exited

namespace Sight

variable {State : Type} {sight : Sight State}

/-- Time passes also without any text being carried out. -/
theorem Proceeds.of_carried
    {before after : State}
    (advances : Advances (sight.status before) (sight.status after))
    (texts : sight.texts after = sight.texts before)
    (carried : sight.carried after = sight.carried before)
    (stands : sight.stands after = sight.stands before) :
    sight.Proceeds before after where
  advances := advances
  texts := texts
  carries := fun shell => Nat.le_of_eq (congrFun carried shell).symm
  stops := fun shell _ => congrFun carried shell
  stands := fun path => by
    rw [stands, carried]
    refine ⟨fun stood => ⟨stood, ?_⟩, And.left⟩
    rintro shell ⟨index, text, atLeast, below, -⟩
    exact absurd below (Nat.not_lt_of_le atLeast)

end Sight
/-! ## A desk -/

/-- A shell that carries out whole texts. -/
structure Reader where
  /-- The texts that it was sent. -/
  texts : List String
  /-- The number of texts that it has carried out. -/
  carried : Nat
  /-- It has carried out only what it was sent. -/
  within : carried ≤ texts.length
  /-- Whether it has exited. -/
  hasExited : Bool

namespace Reader

/-- A shell that was just started. -/
def start : Reader :=
  ⟨[], 0, Nat.le_refl 0, false⟩

/-- A shell after a text was put behind those that it was sent. -/
def queue (text : String) (reader : Reader) : Reader where
  texts := reader.texts ++ [text]
  carried := reader.carried
  within := Nat.le_trans reader.within (by simp)
  hasExited := reader.hasExited

/-- A shell after its next text was carried out, which there is. -/
def step (reader : Reader) (waits : reader.carried < reader.texts.length) : Reader where
  texts := reader.texts
  carried := reader.carried + 1
  within := waits
  hasExited := reader.hasExited

/-- How far a shell has come that may be missing. -/
def status : Option Reader → ShellStatus
  | none => .unused
  | some reader => if reader.hasExited then .exited else .running

end Reader

/-- Files, and shells that carry out whole texts. -/
structure Desk where
  /-- The paths of the files. -/
  files : List String
  /-- The number of files that were made. -/
  made : Nat
  /-- The shells in the order in which they were started. -/
  readers : List Reader

namespace Desk

/-- A desk with nothing on it. -/
def empty : Desk :=
  ⟨[], 0, []⟩

/-- The end of a text that removes the file at a path. -/
def removal (path : String) : List Char :=
  ("; rm -f \"" ++ path ++ "\" \"" ++ Executor.artifact path ++ "\"" ++ "\n\x7d\n").toList

/-- Whether a text removes the file at a path at its end. -/
def removes (text path : String) : Bool :=
  (removal path).isSuffixOf text.toList

/-- Makes a file whose name has a new number. -/
def createFile (ext : String) (desk : Desk) : Except HostFailure String × Desk :=
  let path := "blockrun-" ++ toString desk.made ++ ext
  (.ok path, { desk with files := path :: desk.files, made := desk.made + 1 })

/-- Starts a shell. -/
def startShell (desk : Desk) : Except ShellFailure Nat × Desk :=
  (.ok desk.readers.length, { desk with readers := desk.readers ++ [.start] })

/-- Puts a text behind those that a shell was sent, unless it has exited. -/
def writeShell (shell : Nat) (text : String) (desk : Desk) : Except String Unit × Desk :=
  match desk.readers[shell]? with
  | none => (.error "There is no shell", desk)
  | some reader =>
      if reader.hasExited then (.error "The shell has exited", desk)
      else (.ok (), { desk with readers := desk.readers.set shell (reader.queue text) })

/-- Makes a shell exit before it carries out more. -/
def endShell (shell : Nat) (desk : Desk) : Except HostFailure Unit × Desk :=
  match desk.readers[shell]? with
  | none => (.error .impossible, desk)
  | some reader =>
      (.ok (), { desk with readers := desk.readers.set shell { reader with hasExited := true } })

/-- A desk as what an executor acts on. -/
def host : Host Desk where
  createFile := fun ext _ => createFile ext
  removeFile := fun path desk => { desk with files := desk.files.filter (· ≠ path) }
  runCommand := fun _ _ desk => (.ok 0, desk)
  startShell := fun _ => startShell
  isRunning := fun shell desk => (desk.readers[shell]?.any fun reader => !reader.hasExited, desk)
  writeShell := writeShell
  endShell := fun shell _ => endShell shell

/-- What is to be seen on a desk. -/
def sight : Sight Desk where
  status := fun desk shell => Reader.status desk.readers[shell]?
  stands := fun desk path => path ∈ desk.files
  texts := fun desk shell => (desk.readers[shell]?.map Reader.texts).getD []
  carried := fun desk shell => (desk.readers[shell]?.map Reader.carried).getD 0
  clears := fun text path => removes text path = true

/-- Lets a shell carry out its next text. -/
def work (shell : Nat) (desk : Desk) : Desk :=
  match desk.readers[shell]? with
  | none => desk
  | some reader =>
      if reader.hasExited then desk
      else if waits : reader.carried < reader.texts.length then
        { desk with
          files := desk.files.filter fun path =>
            !removes (reader.texts.get ⟨reader.carried, waits⟩) path
          readers := desk.readers.set shell (reader.step waits) }
      else desk

theorem removes_sessionCommand (runner : Runner) (path : String) :
    removes (Executor.sessionCommand runner path) path = true := by
  refine List.isSuffixOf_iff_suffix.mpr ⟨("\x7b " ++ runner.render path).toList, ?_⟩
  rw [removal, ← String.toList_append]
  simp only [Executor.sessionCommand, Executor.compound, String.append_assoc]

/-! ## One shell in the place of another -/

/-- One shell is put in the place of another, and the others stay. -/
theorem getElem?_set_reader
    {readers : List Reader}
    {shell : Nat}
    {old new : Reader}
    (found : readers[shell]? = some old)
    (other : Nat) :
    (readers.set shell new)[other]? = if other = shell then some new else readers[other]? := by
  obtain ⟨present, -⟩ := List.getElem?_eq_some_iff.mp found
  by_cases same : other = shell
  · rw [if_pos same, same, List.getElem?_set_self present]
  · rw [if_neg same, List.getElem?_set_ne (Ne.symm same)]

theorem getElem?_concat_reader (readers : List Reader) (new : Reader) (other : Nat) :
    (readers ++ [new])[other]? = if other = readers.length then some new else readers[other]? := by
  by_cases same : other = readers.length
  · rw [if_pos same, same, List.getElem?_concat_length]
  · rw [if_neg same]
    rcases Nat.lt_or_gt_of_ne same with below | above
    · exact List.getElem?_append_left below
    · rw [List.getElem?_eq_none (Nat.le_of_lt above), List.getElem?_eq_none]
      rw [List.length_append, List.length_singleton]
      exact above

/-- No shell goes back when one is put in the place of another that does not. -/
theorem advances_set
    {before after : Desk}
    {shell : Nat}
    {old new : Reader}
    (found : before.readers[shell]? = some old)
    (changed : after.readers = before.readers.set shell new)
    (forward : old.hasExited = true → new.hasExited = true) :
    Advances (sight.status before) (sight.status after) := by
  intro other
  simp only [sight, changed, getElem?_set_reader found]
  by_cases same : other = shell
  · rw [if_pos same, same, found, Reader.status, Reader.status]
    cases oldExited : old.hasExited with
    | true => simp [forward oldExited]
    | false => cases new.hasExited <;> simp
  · exact Nat.le_of_eq (by rw [if_neg same])

/-! ## The steps of a desk -/

theorem proceeds_startShell (desk : Desk) : sight.Proceeds desk desk.startShell.2 := by
  have found (other : Nat) := getElem?_concat_reader desk.readers .start other
  refine .of_carried (fun other => ?_) (funext fun other => ?_) (funext fun other => ?_) rfl
  all_goals
    simp only [sight, startShell, found]
    by_cases same : other = desk.readers.length
  · simp [same, Reader.status]
  · exact Nat.le_of_eq (by rw [if_neg same])
  · simp [same, Reader.start]
  · rw [if_neg same]
  · simp [same, Reader.start]
  · rw [if_neg same]

theorem queues_writeShell
    {shell : Nat}
    {text : String}
    {before after : Desk}
    (written : before.writeShell shell text = (.ok (), after)) :
    sight.Queues shell text before after := by
  unfold writeShell at written
  cases found : before.readers[shell]? with
  | none => simp [found] at written
  | some reader =>
      simp only [found] at written
      split at written
      · cases written
      · cases written
        refine ⟨?_, fun other different => ?_, funext fun other => ?_, rfl⟩
        · simp [sight, getElem?_set_reader found, found, Reader.queue]
        · simp [sight, getElem?_set_reader found, different]
        · by_cases same : other = shell <;>
            simp [sight, getElem?_set_reader found, same, found, Reader.queue]

theorem proceeds_endShell
    {shell : Nat}
    {before after : Desk}
    (ended : before.endShell shell = (.ok (), after)) :
    sight.Proceeds before after ∧ sight.status after shell = .exited := by
  unfold endShell at ended
  cases found : before.readers[shell]? with
  | none => simp [found] at ended
  | some reader =>
      simp only [found] at ended
      cases ended
      refine ⟨.of_carried (advances_set found rfl fun _ => rfl) (funext fun other => ?_)
        (funext fun other => ?_) rfl, ?_⟩
      · by_cases same : other = shell <;> simp [sight, getElem?_set_reader found, same, found]
      · by_cases same : other = shell <;> simp [sight, getElem?_set_reader found, same, found]
      · simp [sight, getElem?_set_reader found, Reader.status]

/-- A desk serves sessions that carry out their texts in order. -/
theorem serves : host.Serves sight where
  removes := removes_sessionCommand
  bounded := fun desk shell => by
    cases found : desk.readers[shell]? with
    | none => simp [sight, found]
    | some reader => simpa [sight, found] using reader.within
  createFile := fun ext content path before after created => by
    cases created
    exact ⟨rfl, rfl, fun other => List.mem_cons⟩
  isRunning := fun shell answer before after asked => by
    cases asked
    exact .of_carried (Advances.refl _) rfl rfl rfl
  startShell := fun name answer before after started => by
    cases started
    exact proceeds_startShell before
  writeShell := fun shell text before after written => queues_writeShell written
  endShell := fun shell limit before after ended => proceeds_endShell ended

/-- A file stands after a shell has carried out a text if it stood and is not removed. -/
theorem stands_step
    {before after : Desk}
    {shell : Nat}
    {reader : Reader}
    (found : before.readers[shell]? = some reader)
    (waits : reader.carried < reader.texts.length)
    (changed : after.readers = before.readers.set shell (reader.step waits))
    (files : after.files = before.files.filter fun path =>
      !removes (reader.texts.get ⟨reader.carried, waits⟩) path)
    (path : String) :
    sight.stands after path ↔ sight.stands before path ∧
      ∀ other, ¬sight.Clears before other (sight.carried before other)
        (sight.carried after other) path := by
  have isFile : sight.stands after path ↔ sight.stands before path ∧
      removes (reader.texts.get ⟨reader.carried, waits⟩) path = false := by
    simp [sight, files, List.mem_filter]
  rw [isFile]
  refine and_congr_right fun _ => ⟨?_, fun none => ?_⟩
  · rintro keeps other ⟨index, text, atLeast, below, isText, clears⟩
    by_cases isShell : other = shell
    · subst isShell
      have last : index = reader.carried := by
        simp [sight, found, changed, getElem?_set_reader found, Reader.step] at atLeast below
        omega
      have same : reader.texts[reader.carried]? = some text := by
        simpa [sight, found, last] using isText
      rw [List.getElem?_eq_getElem waits, Option.some.injEq] at same
      rw [List.get_eq_getElem, same] at keeps
      exact Bool.false_ne_true (keeps.symm.trans clears)
    · simp [sight, changed, getElem?_set_reader found, isShell] at atLeast below
      omega
  · refine Bool.eq_false_iff.mpr fun removed => none shell ⟨reader.carried, _, ?_, ?_, ?_, removed⟩
    · simp [sight, found]
    · simp [sight, changed, getElem?_set_reader found, Reader.step]
    · simp [sight, found, List.getElem?_eq_getElem waits]

/-- Carrying out a text is what time may bring. -/
theorem proceeds_work (shell : Nat) (desk : Desk) : sight.Proceeds desk (desk.work shell) := by
  have same : sight.Proceeds desk desk := .of_carried (Advances.refl _) rfl rfl rfl
  unfold work
  cases found : desk.readers[shell]? with
  | none => exact same
  | some reader =>
      dsimp only
      split
      · exact same
      split
      · rename_i runs waits
        refine ⟨advances_set found rfl id, funext fun other => ?_, fun other => ?_,
          fun other hasExited => ?_, stands_step found waits rfl rfl⟩
        · by_cases isShell : other = shell <;>
            simp [sight, getElem?_set_reader found, isShell, found, Reader.step]
        · by_cases isShell : other = shell <;>
            simp [sight, getElem?_set_reader found, isShell, found, Reader.step]
        · have isOther : other ≠ shell := by
            rintro rfl
            simp [sight, found, Reader.status, runs] at hasExited
          simp [sight, getElem?_set_reader found, isOther]
      · exact same

end Desk
end Snippets
