import Snippets.Proofs.Config.Runners
import Snippets.Proofs.Execution.MachineFiles
import Snippets.Proofs.Execution.Watching
import Snippets.Proofs.Text.Utf8

/-!
# What shells receive

A shell receives the texts that are written to it, byte for byte, and a temporary file gets a path
that no temporary file had before.  A host that works this way delivers.  Machines do, whatever
the programs on them do to the files.
-/

namespace Snippets

/-- What is to be seen of shells and of temporary files in the states of a host. -/
structure Intake (State : Type) where
  /-- The bytes that a shell has received, the first one first. -/
  received : State → Nat → List UInt8
  /-- The bytes in the file at a path. -/
  content : State → String → Option (List UInt8)
  /-- Whether a temporary file was ever made at a path. -/
  given : State → String → Prop
  /-- Whether nobody changes files while a content is written to a temporary file. -/
  undisturbed : String → State → Prop

/-- Whether nobody writes to shells from one state to another. -/
structure Intake.Passes {State : Type} (intake : Intake State) (before after : State) : Prop where
  received : intake.received after = intake.received before
  given : ∀ path, intake.given before path → intake.given after path

/-- The shell to which a step has written, and the text. -/
def HostStep.written? : HostStep → Option (Nat × String)
  | .writeShell shell text (.ok _) => some (shell, text)
  | _ => none

/-- A host delivers what is written if a text comes to its shell as a whole or not at all, a shell
that was just started has received nothing, and a temporary file holds its content at a path of its
own. -/
structure Host.Delivers {State : Type} (host : Host State) (intake : Intake State) : Prop where
  passes (step : HostStep) (before after : State) :
    host.Takes before after step → step.written? = none → intake.Passes before after
  rests (step : HostStep) (before after : State) :
    host.Takes before after step → step.IsQuiet → intake.content after = intake.content before
  isEmpty (name : String) (shell : Nat) (before after : State) :
    host.startShell name before = (.ok shell, after) → intake.received after shell = []
  writeShell (shell : Nat) (text : String) (before after : State) :
    host.writeShell shell text before = (.ok (), after) →
      intake.received after shell =
        intake.received before shell ++ Text.encodeUtf8 text.toList
  keeps (shell : Nat) (text : String) (before after : State) :
    host.writeShell shell text before = (.ok (), after) →
      ∀ path, intake.given before path → intake.given after path
  isNew (ext content path : String) (before after : State) :
    Runner.isExtension ext = true → host.createFile ext content before = (.ok path, after) →
      ¬intake.given before path ∧ intake.given after path
  holds (ext content path : String) (before after : State) :
    host.createFile ext content before = (.ok path, after) → intake.undisturbed content before →
      intake.content after path = some (Text.encodeUtf8 content.toList)

namespace Intake

variable {State : Type} {intake : Intake State}

theorem Passes.refl (state : State) : intake.Passes state state :=
  ⟨rfl, fun _ given => given⟩

theorem Passes.trans
    {first second third : State}
    (earlier : intake.Passes first second)
    (later : intake.Passes second third) :
    intake.Passes first third :=
  ⟨later.received.trans earlier.received,
    fun path given => later.given path (earlier.given path given)⟩

end Intake

/-! ## Bytes and octets -/

namespace Shell

theorem toBytes_append (first second : List Char) :
    toBytes (first ++ second) = toBytes first ++ toBytes second :=
  List.map_append

theorem toBytes_ofBytes (bytes : List UInt8) : toBytes (ofBytes bytes) = bytes := by
  have back (byte : UInt8) : (Char.ofNat byte.toNat).toNat.toUInt8 = byte := by
    have valid : byte.toNat.isValidChar := .inl (Nat.lt_trans byte.toNat_lt (by decide))
    rw [Text.toNat_ofNat_of_isValidChar valid]
    exact UInt8.ofNat_toNat
  unfold toBytes ofBytes
  rw [List.map_map]
  exact List.map_id'' back bytes

theorem toBytes_ofText (text : String) : toBytes (ofText text) = Text.encodeUtf8 text.toList :=
  toBytes_ofBytes _

theorem ofText_append (first second : String) :
    ofText (first ++ second) = ofText first ++ ofText second := by
  simp [ofText, ofBytes, Text.encodeUtf8]

/-- A number is read off its digits, also if zeros stand before them. -/
theorem ofDigitChars_padLeft (width number : Nat) :
    Nat.ofDigitChars 10 (padLeft width '0' (ofNat number)) 0 = number := by
  have zeros (count : Nat) : Nat.ofDigitChars 10 (List.replicate count '0') 0 = 0 := by
    induction count with
    | zero => rfl
    | succ count inductionHypothesis =>
        rw [List.replicate_succ, Nat.ofDigitChars_cons]
        exact inductionHypothesis
  have digits : ofNat number = Nat.toDigits 10 number := by simp [ofNat, Nat.repr]
  rw [padLeft, Nat.ofDigitChars_append, zeros, digits]
  exact Nat.ofDigitChars_toDigits (by decide) (by decide)

end Shell

namespace Machine

open Shell

/-! ## The paths of temporary files -/

/-- The number of a temporary file is read off its path. -/
theorem temporaryPath_inj
    {machine : Machine}
    {ext ext' : String}
    {first second : Nat}
    (form : Runner.isExtension ext = true)
    (form' : Runner.isExtension ext' = true)
    (same : machine.temporaryPath ext first = machine.temporaryPath ext' second) :
    first = second := by
  -- The digits end where the dot of the extension stands.
  have digits {ext : String} (form : Runner.isExtension ext = true) (number : Nat) :
      (padLeft 8 '0' (ofNat number) ++ ext.toList).takeWhile Char.isDigit =
        padLeft 8 '0' (ofNat number) := by
    obtain ⟨dot, -⟩ := Runner.isExtension_iff.mp form
    obtain ⟨rest, begins⟩ := List.head?_eq_some_iff.mp dot
    rw [List.takeWhile_append_of_pos fun _ present => isDigit_padLeft present, begins,
      List.takeWhile_cons_of_neg (by decide), List.append_nil]
  have lists : padLeft 8 '0' (ofNat first) ++ ext.toList =
      padLeft 8 '0' (ofNat second) ++ ext'.toList := by
    simpa [temporaryPath, ← String.toList_inj] using same
  have padded : padLeft 8 '0' (ofNat first) = padLeft 8 '0' (ofNat second) := by
    rw [← digits form first, lists, digits form' second]
  rw [← ofDigitChars_padLeft 8 first, padded, ofDigitChars_padLeft 8 second]

theorem le_of_freeFile
    {machine : Machine}
    {ext : String}
    {first number tries : Nat}
    {names : List String}
    (free : machine.freeFile ext first tries = .ok (number, names)) :
    first ≤ number := by
  induction tries generalizing first with
  | zero => cases free
  | succ tries inductionHypothesis =>
      unfold freeFile at free
      split at free
      · cases free
      split at free
      · exact Nat.le_of_succ_le (inductionHypothesis free)
      · cases free
        exact Nat.le_refl _

/-! ## What is to be seen of a machine -/

/-- The bytes that a program was sent. -/
def receivedBy (worker : Worker) : List UInt8 :=
  toBytes worker.input

/-- Whether the number of a temporary file at a path was passed. -/
def Gave (machine : Machine) (path : String) : Prop :=
  ∃ number ext, number < machine.nextFile ∧ Runner.isExtension ext = true ∧
    path = machine.temporaryPath ext number

/-- The bytes in a file that is no directory. -/
def bytesAt? (path : String) (machine : Machine) : Option (List UInt8) :=
  match machine.nodeAt? path with
  | some (.file bytes _) => some bytes
  | _ => none

/-- What is to be seen on a machine. -/
def intake : Intake Machine where
  received := fun machine shell => (machine.workers[shell]?.map receivedBy).getD []
  content := fun machine path => machine.bytesAt? path
  given := Gave
  undisturbed := Undisturbed

/-- What leaves the texts of programs, the directory of temporary files and their numbers as they
are writes to no shell. -/
theorem passes_of_eq
    {before after : Machine}
    (inputs : after.workers.map receivedBy = before.workers.map receivedBy)
    (temporary : after.temporary = before.temporary)
    (nextFile : before.nextFile ≤ after.nextFile) :
    intake.Passes before after where
  received := funext fun shell => by
    simp only [intake, ← List.getElem?_map, inputs]
  given := by
    rintro path ⟨number, ext, below, form, rfl⟩
    refine ⟨number, ext, Nat.lt_of_lt_of_le below nextFile, form, ?_⟩
    rw [temporaryPath, temporaryPath, temporary]

theorem content_of_sameFiles
    {before after : Machine}
    (same : before.SameFiles after) :
    intake.content after = intake.content before :=
  funext fun path => by simp only [intake, bytesAt?, same.nodeAt?]

/-- A program that exits has received what it had. -/
theorem map_receivedBy_set
    {workers : List Worker}
    {number : Nat}
    {worker worker' : Worker}
    (found : workers[number]? = some worker)
    (same : receivedBy worker' = receivedBy worker) :
    (workers.set number worker').map receivedBy = workers.map receivedBy := by
  obtain ⟨present, rfl⟩ := List.getElem?_eq_some_iff.mp found
  rw [List.map_set, same, ← List.getElem_map receivedBy (h := by simpa using present)]
  exact List.set_getElem_self _

theorem passes_letGoOn (time : Nat) (machine : Machine) (number : Nat) :
    intake.Passes machine (machine.letGoOn time number) := by
  unfold letGoOn
  cases found : machine.workers[number]? with
  | none => exact .refl machine
  | some worker =>
      dsimp only
      split
      · exact .refl machine
      split
      · exact .refl machine
      · refine passes_of_eq ?_ rfl (Nat.le_refl _)
        rw [workers_runWorker]
        exact map_receivedBy_set found rfl

theorem passes_elapse (microseconds : Nat) (machine : Machine) :
    intake.Passes machine (machine.elapse microseconds) := by
  unfold elapse
  split
  · exact .refl machine
  · have goOn (numbers : List Nat) (time : Nat) :
        intake.Passes machine (numbers.foldl (letGoOn time) machine) := by
      induction numbers using List.reverseRecOn with
      | nil => exact .refl machine
      | append_singleton numbers number inductionHypothesis =>
          rw [List.foldl_append]
          exact inductionHypothesis.trans (passes_letGoOn time _ number)
    exact (goOn _ _).trans (passes_of_eq rfl rfl (Nat.le_refl _))

theorem passes_withFile
    {number : Nat}
    {machine : Machine}
    (after : machine.nextFile ≤ number)
    (names : List String)
    (bytes : List UInt8) :
    intake.Passes machine (machine.withFile number names bytes) :=
  passes_of_eq rfl rfl (Nat.le_succ_of_le after)

theorem passes_createFile (ext content : String) (machine : Machine) :
    intake.Passes machine (machine.createFile ext content).2 := by
  unfold createFile
  split
  · exact .refl machine
  · rename_i number names free
    exact (passes_withFile (le_of_freeFile free) names _).trans (passes_elapse _ _)

/-- A temporary file has a number that was not passed before. -/
theorem isNew_createFile
    {ext content path : String}
    {before after : Machine}
    (form : Runner.isExtension ext = true)
    (created : before.createFile ext content = (.ok path, after)) :
    ¬before.Gave path ∧ after.Gave path := by
  unfold createFile at created
  split at created
  · cases created
  · rename_i number names free
    cases created
    have passed := le_of_freeFile free
    refine ⟨?_, (passes_elapse _ _).given _ ⟨number, ext, Nat.lt_succ_self number, form, rfl⟩⟩
    rintro ⟨number', ext', below, form', same⟩
    have equal := temporaryPath_inj form form' same
    omega

theorem passes_removeFile (path : String) (machine : Machine) :
    intake.Passes machine (machine.removeFile path) := by
  rcases machine.removeFile_cases path with ⟨-, same⟩ | ⟨names, -, -, -, removed⟩
  · rw [same]
    exact .refl machine
  · rw [removed]
    exact passes_of_eq rfl rfl (Nat.le_refl _)

theorem passes_after (state : State) (machine : Machine) :
    intake.Passes machine (machine.after state) :=
  passes_of_eq rfl rfl (Nat.le_refl _)

theorem passes_runCommand (command : String) (limit : Option Seconds) (machine : Machine) :
    intake.Passes machine (machine.runCommand command limit).2 := by
  unfold runCommand
  split
  · exact .refl machine
  split
  · exact .refl machine
  split
  · exact .refl machine
  · dsimp only
    generalize Evaluation.run _ _ = outcome
    generalize Shell.World.isLate _ = late
    split
    · exact .refl machine
    · split
      · exact passes_after _ machine
      · split
        · exact passes_after _ machine
        · split <;> exact passes_after _ machine

theorem passes_endShell (number : Nat) (limit : Option Seconds) (machine : Machine) :
    intake.Passes machine (machine.endShell number limit).2 := by
  unfold endShell
  cases found : machine.workers[number]? with
  | none => exact .refl machine
  | some worker =>
      dsimp only
      split
      · exact .refl machine
      · refine passes_of_eq ?_ rfl (Nat.le_refl _)
        rw [workers_runWorker]
        exact map_receivedBy_set found rfl

/-- A text that is written comes after all others. -/
theorem writeShell_cases (shell : Nat) (text : String) (machine : Machine) :
    (∃ reason, machine.writeShell shell text = (.error reason, machine)) ∨
      ∃ worker, machine.workers[shell]? = some worker ∧
        machine.writeShell shell text =
          (.ok (), { machine with
            workers := machine.workers.set shell
              { worker with input := worker.input ++ ofText text } }) := by
  unfold writeShell
  cases found : machine.workers[shell]? with
  | none => exact .inl ⟨_, rfl⟩
  | some worker =>
      dsimp only
      split
      · exact .inl ⟨_, rfl⟩
      · exact .inr ⟨worker, rfl, rfl⟩

theorem passes_startShell (name : String) (machine : Machine) :
    intake.Passes machine (machine.startShell name).2 := by
  rcases machine.startShell_eq name with ⟨failure, started⟩ | started
  · rw [started]
    exact .refl machine
  · rw [started]
    refine ⟨funext fun shell => ?_, fun path given => given⟩
    -- A program that was not started has received as little as one that just was.
    rcases Nat.lt_trichotomy shell machine.workers.length with below | same | above
    · simp [intake, List.getElem?_append_left below]
    · simp [intake, same, receivedBy, toBytes]
    · have absent : machine.workers[shell]? = none := List.getElem?_eq_none (Nat.le_of_lt above)
      have absentToo (worker : Worker) : (machine.workers ++ [worker])[shell]? = none :=
        List.getElem?_eq_none (by simpa using Nat.succ_le_of_lt above)
      simp only [intake, absent, absentToo]

theorem received_writeShell
    {shell : Nat}
    {text : String}
    {before after : Machine}
    (written : before.writeShell shell text = (.ok (), after)) :
    intake.received after shell = intake.received before shell ++ Text.encodeUtf8 text.toList := by
  rcases before.writeShell_cases shell text with ⟨reason, fails⟩ | ⟨worker, found, writes⟩
  · cases fails.symm.trans written
  · cases writes.symm.trans written
    obtain ⟨present, rfl⟩ := List.getElem?_eq_some_iff.mp found
    simp [intake, present, receivedBy, toBytes_append, toBytes_ofText]

/-- All steps but those that write to a program leave what the programs have received. -/
theorem passes_step
    {step : HostStep}
    {before after : Machine}
    (takes : host.Takes before after step)
    (silent : step.written? = none) :
    intake.Passes before after := by
  cases step with
  | createFile ext content answer =>
      simpa [show before.createFile ext content = _ from takes] using
        passes_createFile ext content before
  | removeFile path =>
      simpa [show before.removeFile path = after from takes] using passes_removeFile path before
  | runCommand command limit answer =>
      simpa [show before.runCommand command limit = _ from takes] using
        passes_runCommand command limit before
  | startShell name answer =>
      simpa [show before.startShell name = _ from takes] using passes_startShell name before
  | isRunning shell answer =>
      cases takes
      exact .refl before
  | endShell shell limit answer =>
      simpa [show before.endShell shell limit = _ from takes] using
        passes_endShell shell limit before
  | writeShell shell text answer =>
      rcases before.writeShell_cases shell text with ⟨reason, fails⟩ | ⟨worker, -, writes⟩
      · cases fails.symm.trans takes
        exact .refl before
      · cases writes.symm.trans takes
        cases silent

/-- Machines deliver what is written to their programs. -/
theorem delivers : host.Delivers intake where
  passes := fun step before after takes silent => passes_step takes silent
  rests := fun step before after takes quiet => by
    cases step with
    | startShell name answer =>
        have same := leavesFiles_ownPrograms.startShell name before
        rw [show ownPrograms.startShell name before = _ from takes] at same
        exact content_of_sameFiles same
    | isRunning shell answer =>
        cases takes
        rfl
    | createFile | removeFile | runCommand | writeShell | endShell => cases quiet
  isEmpty := fun name shell before after started => by
    rcases before.startShell_eq name with ⟨failure, fails⟩ | starts
    · cases fails.symm.trans started
    · cases starts.symm.trans started
      simp [intake, receivedBy, toBytes]
  writeShell := fun shell text before after written => received_writeShell written
  keeps := fun shell text before after written => by
    rcases before.writeShell_cases shell text with ⟨reason, fails⟩ | ⟨worker, -, writes⟩
    · cases fails.symm.trans written
    · cases writes.symm.trans written
      exact fun path given => given
  isNew := fun ext content path before after form created => isNew_createFile form created
  holds := fun ext content path before after created undisturbed => by
    obtain ⟨traits, holds⟩ := (makes_createFile created undisturbed).holds
    simp only [intake, bytesAt?, holds]

end Machine
end Snippets
