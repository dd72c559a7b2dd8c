import Snippets.Proofs.Execution.Desk
import Snippets.Proofs.Execution.Watching

/-!
# Temporary files that remain

Code in another language than the shell's is sent to a session as a command on a temporary file,
and the same text removes the file at its end.  The main statement is about what is left when an
executor was closed after runs that all succeeded: a file remains only if a text that was sent for
it was not carried out, and it does remain unless some other text removes it.
-/

namespace Snippets

/-- The temporary file that is made in a step. -/
def HostStep.made? : HostStep → Option String
  | .createFile _ _ (.ok path) => some path
  | _ => none

namespace Passage

variable {State : Type}

/-- The temporary files that are made in a run. -/
def made (passage : Passage State) : List String :=
  (passage.steps.map Prod.snd).filterMap HostStep.made?

/-- Whether all that is sent in a run has been carried out in a state. -/
def CarriedOut (sight : Sight State) (state : State) (passage : Passage State) : Prop :=
  ∀ moment shell text, (moment, .writeShell shell text (.ok ())) ∈ passage.steps →
    (sight.texts moment shell).length < sight.carried state shell

/-- Whether a text that removes the file at a path was sent in a run and waits to be carried
out. -/
def Waits
    (sight : Sight State)
    (state : State)
    (path : String)
    (passage : Passage State) : Prop :=
  ∃ moment shell text,
    (moment, .writeShell shell text (.ok ())) ∈ passage.steps ∧
    (sight.texts state shell)[(sight.texts moment shell).length]? = some text ∧
    sight.clears text path ∧
    sight.carried state shell ≤ (sight.texts moment shell).length

end Passage

namespace Sight

variable {State : Type} {sight : Sight State}

/-- What holds between runs that succeed: a file that was made stands only if a text that removes
it waits to be carried out, and does stand unless one was carried out.  A fresh file is one for
which no text was sent yet. -/
structure Accounts
    (sight : Sight State)
    (fresh : Option String)
    (past : List (Passage State))
    (state : State) : Prop where
  waits : ∀ path, fresh ≠ some path → (∃ passage ∈ past, path ∈ passage.made) →
    sight.stands state path → ∃ passage ∈ past, path ∈ passage.made ∧
      passage.Waits sight state path
  keeps : ∀ path, (fresh = some path ∨ ∃ passage ∈ past, path ∈ passage.made) →
    ¬sight.Cleared state path → sight.stands state path

theorem accounts_nil (state : State) : sight.Accounts none [] state where
  waits := fun path _ made => by simp at made
  keeps := fun path made => by simp at made

/-! ## As time passes -/

section

variable {before after : State} (goesOn : sight.Proceeds before after)

include goesOn

/-- What was removed stays removed. -/
theorem Proceeds.cleared
    {path : String}
    (cleared : sight.Cleared before path) :
    sight.Cleared after path := by
  obtain ⟨shell, index, text, atLeast, below, found, clears⟩ := cleared
  refine ⟨shell, index, text, atLeast, Nat.lt_of_lt_of_le below (goesOn.carries shell), ?_,
    clears⟩
  rw [goesOn.texts]
  exact found

/-- A text that removes a file that still stands still waits. -/
theorem Proceeds.waits
    {path : String}
    {passage : Passage State}
    (stands : sight.stands after path)
    (waits : passage.Waits sight before path) :
    passage.Waits sight after path := by
  obtain ⟨moment, shell, text, sent, found, clears, notCarried⟩ := waits
  refine ⟨moment, shell, text, sent, by rw [goesOn.texts]; exact found, clears, ?_⟩
  refine Nat.le_of_not_lt fun carried => ((goesOn.stands path).mp stands).2 shell ?_
  exact ⟨_, text, notCarried, carried, found, clears⟩

theorem Accounts.proceeds
    {fresh : Option String}
    {past : List (Passage State)}
    (accounts : sight.Accounts fresh past before) :
    sight.Accounts fresh past after where
  waits := fun path notFresh made stands => by
    have stood := ((goesOn.stands path).mp stands).1
    obtain ⟨passage, present, makes, waits⟩ := accounts.waits path notFresh made stood
    exact ⟨passage, present, makes, goesOn.waits stands waits⟩
  keeps := fun path made notCleared => by
    have stood := accounts.keeps path made fun cleared => notCleared (goesOn.cleared cleared)
    refine (goesOn.stands path).mpr ⟨stood, ?_⟩
    rintro shell ⟨index, text, -, below, found, clears⟩
    refine notCleared ⟨shell, index, text, Nat.zero_le index, below, ?_, clears⟩
    rw [goesOn.texts]
    exact found

end

/-! ## Files and texts -/

theorem Accounts.makes
    {fresh : String}
    {past : List (Passage State)}
    {before after : State}
    (accounts : sight.Accounts none past before)
    (makes : sight.Makes fresh before after) :
    sight.Accounts (some fresh) past after where
  waits := fun path notFresh made stands => by
    have other : path ≠ fresh := fun same => notFresh (same ▸ rfl)
    have stood := ((makes.stands path).mp stands).resolve_left other
    obtain ⟨passage, present, madeByOther, waits⟩ := accounts.waits path (by simp) made stood
    refine ⟨passage, present, madeByOther, ?_⟩
    simpa only [Passage.Waits, makes.texts, makes.carried] using waits
  keeps := fun path made notCleared => by
    rcases made with isFresh | madeBefore
    · exact (makes.stands path).mpr (.inl (Option.some.inj isFresh).symm)
    · refine (makes.stands path).mpr (.inr (accounts.keeps path (.inr madeBefore) ?_))
      simpa only [Cleared, Clears, makes.texts, makes.carried] using notCleared

/-- A text that was sent stays where it is when others are sent. -/
theorem Queues.getElem?
    {shell other index : Nat}
    {text earlier : String}
    {before after : State}
    (queues : sight.Queues shell text before after)
    (found : (sight.texts before other)[index]? = some earlier) :
    (sight.texts after other)[index]? = some earlier := by
  by_cases same : other = shell
  · subst same
    obtain ⟨present, -⟩ := List.getElem?_eq_some_iff.mp found
    rw [queues.texts, List.getElem?_append_left present]
    exact found
  · rw [queues.others other same]
    exact found

theorem Queues.cleared
    {shell : Nat}
    {text path : String}
    {before after : State}
    (queues : sight.Queues shell text before after)
    (cleared : sight.Cleared before path) :
    sight.Cleared after path := by
  obtain ⟨other, index, earlier, atLeast, below, found, clears⟩ := cleared
  refine ⟨other, index, earlier, atLeast, ?_, queues.getElem? found, clears⟩
  rw [queues.carried]
  exact below

theorem Queues.waits
    {shell : Nat}
    {text path : String}
    {before after : State}
    {passage : Passage State}
    (queues : sight.Queues shell text before after)
    (waits : passage.Waits sight before path) :
    passage.Waits sight after path := by
  obtain ⟨moment, other, earlier, sent, found, clears, notCarried⟩ := waits
  refine ⟨moment, other, earlier, sent, queues.getElem? found, clears, ?_⟩
  rw [queues.carried]
  exact notCarried

/-- The last step of a run that succeeds sends a text, which removes the file that was made. -/
theorem Accounts.queues
    {fresh : Option String}
    {past : List (Passage State)}
    {passage : Passage State}
    {shell : Nat}
    {text : String}
    {before after : State}
    (accounts : sight.Accounts fresh past before)
    (queues : sight.Queues shell text before after)
    (bounded : sight.carried before shell ≤ (sight.texts before shell).length)
    (sent : (before, .writeShell shell text (.ok ())) ∈ passage.steps)
    (makes : ∀ path, path ∈ passage.made ↔ fresh = some path)
    (clears : ∀ path, fresh = some path → sight.clears text path) :
    sight.Accounts none (past ++ [passage]) after where
  waits := fun path _ made stands => by
    rw [queues.stands] at stands
    by_cases isFresh : fresh = some path
    · refine ⟨passage, by simp, (makes path).mpr isFresh, ?_⟩
      refine ⟨before, shell, text, sent, ?_, clears path isFresh,
        by rw [queues.carried]; exact bounded⟩
      rw [queues.texts, List.getElem?_concat_length]
    · have madeBefore : ∃ passage ∈ past, path ∈ passage.made := by
        obtain ⟨other, present, madeByOther⟩ := made
        rcases List.mem_append.mp present with earlier | latest
        · exact ⟨other, earlier, madeByOther⟩
        · rw [List.mem_singleton.mp latest, makes] at madeByOther
          exact absurd madeByOther isFresh
      obtain ⟨other, present, madeByOther, waits⟩ := accounts.waits path isFresh madeBefore stands
      exact ⟨other, List.mem_append_left _ present, madeByOther, queues.waits waits⟩
  keeps := fun path made notCleared => by
    rw [queues.stands]
    refine accounts.keeps path ?_ fun cleared => notCleared (queues.cleared cleared)
    obtain ⟨other, present, madeByOther⟩ := made.resolve_left (by simp)
    rcases List.mem_append.mp present with earlier | latest
    · exact .inr ⟨other, earlier, madeByOther⟩
    · rw [List.mem_singleton.mp latest, makes] at madeByOther
      exact .inl madeByOther

/-! ## Runs -/

variable {host : Host State}

/-- Steps that only ask for shells or start them are like time that passes. -/
theorem Accounts.quiet
    (serves : host.Serves sight)
    {fresh : Option String}
    {past : List (Passage State)}
    {first last : Watched State}
    {steps : List HostStep}
    (goes : Watched.Goes host sight.Proceeds first steps last)
    (quiet : ∀ step ∈ steps, step.IsQuiet)
    (accounts : sight.Accounts fresh past first.state) :
    sight.Accounts fresh past last.state := by
  induction goes with
  | nil => exact accounts
  | @cons _ _ moment after step _ passed takes _ inductionHypothesis =>
      refine inductionHypothesis
        (fun other present => quiet other (List.mem_cons_of_mem _ present)) ?_
      have isQuiet := quiet step List.mem_cons_self
      have stepped : sight.Proceeds moment after := by
        cases step with
        | isRunning shell answer => exact serves.isRunning shell answer moment after takes
        | startShell name answer => exact serves.startShell name answer moment after takes
        | createFile | removeFile | runCommand | writeShell | endShell => cases isQuiet
      exact (accounts.proceeds passed).proceeds stepped

/-- The step that ends a run that succeeds accounts for the run. -/
theorem Accounts.written
    (serves : host.Serves sight)
    {fresh : Option String}
    {past : List (Passage State)}
    {passage : Passage State}
    {shell : Nat}
    {text : String}
    {first last : Watched State}
    (goes : Watched.Goes host sight.Proceeds first [.writeShell shell text (.ok ())] last)
    (accounts : sight.Accounts fresh past first.state)
    (seen : passage.steps = last.steps)
    (makes : ∀ path, path ∈ passage.made ↔ fresh = some path)
    (clears : ∀ path, fresh = some path → sight.clears text path) :
    sight.Accounts none (past ++ [passage]) last.state := by
  cases goes with
  | @cons _ _ moment after _ _ passed takes rest =>
      cases rest
      have queues := serves.writeShell shell text moment after takes
      refine (accounts.proceeds passed).queues queues (serves.bounded moment shell) ?_ makes clears
      simp [seen]

theorem filterMap_made?_of_quiet
    {steps : List HostStep}
    (quiet : ∀ step ∈ steps, step.IsQuiet) :
    steps.filterMap HostStep.made? = [] := by
  refine List.filterMap_eq_nil_iff.mpr fun step present => ?_
  cases step with
  | createFile ext content answer => cases quiet _ present
  | removeFile | runCommand | startShell | isRunning | writeShell | endShell => rfl

/-- A run that succeeds is accounted for. -/
theorem Accounts.run
    (serves : host.Serves sight)
    {past : List (Passage State)}
    {passage : Passage State}
    {session' : Session}
    {steps : List HostStep}
    {state : State}
    {watched : Watched State}
    (accounts : sight.Accounts none past state)
    (goes : Watched.Goes host sight.Proceeds (.start state) steps watched)
    (succeeds : Executor.Succeeds session' steps)
    (seen : passage.steps = watched.steps) :
    sight.Accounts none (past ++ [passage]) watched.state := by
  have steps_eq : passage.steps.map Prod.snd = steps := by rw [seen, goes.map_steps]
  cases succeeds with
  | @text front shell text quiet holds =>
      obtain ⟨between, asks, writes⟩ := Watched.goes_append_iff.mp goes
      refine (accounts.quiet serves asks quiet).written serves writes seen (fun path => ?_)
        (fun path isFresh => by cases isFresh)
      simp [Passage.made, steps_eq, filterMap_made?_of_quiet quiet, HostStep.made?]
  | @file front back ext content path runner shell quietFront quietBack holds =>
      obtain ⟨ready, asks, more⟩ := Watched.goes_append_iff.mp goes
      obtain ⟨made, creates, more⟩ := Watched.goes_append_iff.mp more
      obtain ⟨between, asksAgain, writes⟩ := Watched.goes_append_iff.mp more
      have accountsMade : sight.Accounts (some path) past made.state := by
        cases creates with
        | @cons _ _ moment after _ _ passed takes rest =>
            cases rest
            have makes := serves.createFile ext content path moment after takes
            exact ((accounts.quiet serves asks quietFront).proceeds passed).makes makes
      refine (accountsMade.quiet serves asksAgain quietBack).written serves writes seen
        (fun other => ?_) (fun other isFresh => ?_)
      · have onlyFile : passage.made = [path] := by
          simp [Passage.made, steps_eq, filterMap_made?_of_quiet quietFront,
            filterMap_made?_of_quiet quietBack, HostStep.made?]
        rw [onlyFile, List.mem_singleton, Option.some_inj, eq_comm]
      · rw [← Option.some.inj isFresh]
        exact serves.removes runner path

theorem Accounts.course
    (serves : host.Serves sight)
    {runners : Registry}
    {first last : Session}
    {state final : State}
    {past passages : List (Passage State)}
    (accounts : sight.Accounts none past state)
    (course : Executor.Course host sight.Proceeds runners first state passages last final)
    (succeed : ∀ passage ∈ passages, ∃ result, passage.result = .ok result) :
    sight.Accounts none (past ++ passages) final := by
  induction course generalizing past with
  | nil => simpa using accounts
  | @cons session _ _ _ _ _ _ _ watched passages goes runs _ inductionHypothesis =>
      obtain ⟨result, succeeded⟩ := succeed _ List.mem_cons_self
      dsimp only at succeeded
      subst succeeded
      have accountsRun : sight.Accounts none
          (past ++ [⟨session.process, .ok result, watched.steps⟩]) watched.state :=
        accounts.run serves goes runs.succeeds rfl
      have later := inductionHypothesis accountsRun
        fun passage present => succeed passage (List.mem_cons_of_mem _ present)
      simpa using later

/-- A close that does not fail leaves all accounted for. -/
theorem Accounts.close
    (serves : host.Serves sight)
    {past : List (Passage State)}
    {session : Session}
    {limit : Option Seconds}
    {steps : List HostStep}
    {first last : Watched State}
    (accounts : sight.Accounts none past first.state)
    (goes : Watched.Goes host sight.Proceeds first steps last)
    (ends : session.Ends limit steps (.ok ())) :
    sight.Accounts none past last.state ∧
      ∀ shell, session.process = some shell → sight.status last.state shell = .exited := by
  generalize same : (Except.ok () : Except HostFailure Unit) = answer at ends
  cases ends with
  | unused holdsNone =>
      cases goes
      exact ⟨accounts, by simp [holdsNone]⟩
  | @ended shell _ held =>
      subst same
      cases goes with
      | @cons _ _ moment after _ _ passed takes rest =>
          cases rest
          obtain ⟨stepped, hasExited⟩ := serves.endShell shell limit moment after takes
          refine ⟨(accounts.proceeds passed).proceeds stepped, fun other heldToo => ?_⟩
          exact Option.some.inj (held.symm.trans heldToo) ▸ hasExited

/-- A file that stands although all is accounted for is one whose text was not carried out. -/
theorem Accounts.not_carriedOut
    {past : List (Passage State)}
    {state : State}
    {path : String}
    (accounts : sight.Accounts none past state)
    (made : ∃ passage ∈ past, path ∈ passage.made)
    (stands : sight.stands state path) :
    ∃ passage ∈ past, path ∈ passage.made ∧ ¬passage.CarriedOut sight state := by
  obtain ⟨passage, present, makes, moment, shell, text, sent, -, -, notCarried⟩ :=
    accounts.waits path (by simp) made stands
  refine ⟨passage, present, makes, fun carriedOut => ?_⟩
  exact Nat.not_lt_of_le notCarried (carriedOut moment shell text sent)

end Sight

/-- What is left of the temporary files of an executor once it was closed, where all runs before
have succeeded and shells may exit and carry out texts before any of the steps.  A file that is
left is one that was made in a run whose text was not carried out, so that none is left if all
texts were.  All files are left that no text removes which was carried out, and the shell that was
closed carries out nothing any more. -/
theorem Executor.files_left_of_close
    {State : Type}
    {host : Host State}
    {sight : Sight State}
    (serves : host.Serves sight)
    {executor : Executor}
    (isOpen : executor.closed = false)
    (isShell : executor.mode = .shell)
    (start : State)
    (turns : List (Turn State))
    (passing : ∀ turn ∈ turns, ∀ number state, sight.Proceeds state (turn.pass number state))
    (limit : Option Seconds)
    (pass : Nat → State → State)
    (closing : ∀ number state, sight.Proceeds state (pass number state))
    {passages : List (Passage State)}
    {used : Executor}
    {state : State}
    (ran : runAll host turns executor start = (passages, used, state))
    (succeed : ∀ passage ∈ passages, ∃ result, passage.result = .ok result)
    {closed : Executor}
    {final : Watched State}
    (closes : used.close (host.watched pass) limit (.start state) = (.ok (), closed, final)) :
    (∀ path, (∃ passage ∈ passages, path ∈ passage.made) → sight.stands final.state path →
      ∃ passage ∈ passages, path ∈ passage.made ∧ ¬passage.CarriedOut sight final.state) ∧
    ((∀ passage ∈ passages, passage.CarriedOut sight final.state) →
      ∀ passage ∈ passages, ∀ path ∈ passage.made, ¬sight.stands final.state path) ∧
    (∀ passage ∈ passages, ∀ path ∈ passage.made, ¬sight.Cleared final.state path →
      sight.stands final.state path) ∧
    (∀ shell, used.process? = some shell → ∀ later, sight.Proceeds final.state later →
      sight.carried later shell = sight.carried final.state shell) := by
  obtain ⟨session, engine⟩ := exists_session isShell
  obtain ⟨last, course, lastEngine⟩ :
      ∃ last, Course host sight.Proceeds executor.runners session start
        (runAll host turns executor start).1 last (runAll host turns executor start).2.2 ∧
        (runAll host turns executor start).2.1.engine = .shell last :=
    course_runAll turns passing isOpen engine start
  rw [ran] at course lastEngine
  have engineAfter : used.engine = .shell last := lastEngine
  obtain ⟨steps, goes, ends⟩ := goes_close closing engineAfter limit (Watched.start state)
  rw [closes] at goes ends
  have accountsRuns := (Sight.accounts_nil start).course serves course succeed
  obtain ⟨accounts, hasExited⟩ := accountsRuns.close serves goes ends
  refine ⟨fun path made stands => accounts.not_carriedOut made stands, ?_, ?_, ?_⟩
  · intro allCarriedOut passage present path makes stands
    obtain ⟨other, presentToo, -, notCarriedOut⟩ :=
      accounts.not_carriedOut ⟨passage, present, makes⟩ stands
    exact notCarriedOut (allCarriedOut other presentToo)
  · intro passage present path makes notCleared
    exact accounts.keeps path (.inr ⟨passage, present, makes⟩) notCleared
  · intro shell held later proceeds
    have heldByLast : last.process = some shell := by simpa [process?, engineAfter] using held
    exact proceeds.stops shell (hasExited shell heldByLast)

/-! ## A text that is cut off -/

namespace Desk

/-- A block in a language that is no shell's. -/
def note : Block where
  start := 0
  stop := 0
  language := "note"
  code := ""
  anchor := 0

/-- An executor that runs notes in a shell. -/
def noteExecutor : Executor :=
  .make (Registry.empty.insert "note" ⟨"cat \"\x7bfile\x7d\"", ".txt"⟩) .shell none
    Session.defaultShell

/-- Two notes are run, and the shell carries out the first before the second is run. -/
def twoNotes : List (Turn Desk) :=
  [⟨note, fun _ desk => desk⟩, ⟨note, fun number desk => if number = 0 then desk.work 0 else desk⟩]

/-- What is seen of the two runs, and what they leave. -/
def ran : List (Passage Desk) × Executor × Desk :=
  Executor.runAll host twoNotes noteExecutor empty

/-- The close after them. -/
def closing : Except HostFailure Unit × Executor × Watched Desk :=
  ran.2.1.close (host.watched fun _ desk => desk) (some Session.defaultLimit) (.start ran.2.2)

theorem passing_twoNotes :
    ∀ turn ∈ twoNotes, ∀ number desk, sight.Proceeds desk (turn.pass number desk) := by
  have same (desk : Desk) : sight.Proceeds desk desk :=
    .of_carried (ShellStatus.Advances.refl _) rfl rfl rfl
  intro turn present number desk
  rcases List.mem_cons.mp present with rfl | later
  · exact same desk
  · rw [List.mem_singleton.mp later]
    dsimp only
    split
    · exact proceeds_work 0 desk
    · exact same desk

theorem closing_pass (number : Nat) (desk : Desk) :
    sight.Proceeds desk ((fun _ desk => desk : Nat → Desk → Desk) number desk) :=
  .of_carried (ShellStatus.Advances.refl _) rfl rfl rfl

theorem ran_ok : ∀ passage ∈ ran.1, ∃ result, passage.result = .ok result := by
  have allOk : (ran.1.all fun passage => passage.result.toOption.isSome) = true := by
    decide +kernel
  intro passage present
  have isOk := List.all_eq_true.mp allOk passage present
  cases answer : passage.result with
  | ok result => exact ⟨result, rfl⟩
  | error failure =>
      rw [answer] at isOk
      cases isOk

theorem closing_ok : closing.1 = .ok () := by
  have isOk : closing.1.toOption.isSome = true := by decide +kernel
  cases answer : closing.1 with
  | ok _ => rfl
  | error failure =>
      rw [answer] at isOk
      cases isOk

theorem made_ran : ran.1.map Passage.made = [["blockrun-0.txt"], ["blockrun-1.txt"]] := by
  decide +kernel

theorem files_closing : closing.2.2.state.files = ["blockrun-1.txt"] := by
  decide +kernel

/-- The file of the second note is left, to which the shell that is closed has not come. -/
theorem not_removed_twoNotes :
    noteExecutor.IsNew ∧
    noteExecutor.mode = .shell ∧
    host.Serves sight ∧
    (∀ turn ∈ twoNotes, ∀ number desk, sight.Proceeds desk (turn.pass number desk)) ∧
    (∀ passage ∈ ran.1, ∃ result, passage.result = .ok result) ∧
    closing.1 = .ok () ∧
    ¬∀ passage ∈ ran.1, ∀ path ∈ passage.made, ¬sight.stands closing.2.2.state path := by
  refine ⟨Executor.isNew_make _ _ _ _, rfl, serves, passing_twoNotes, ran_ok, closing_ok,
    fun removed => ?_⟩
  have second : ["blockrun-1.txt"] ∈ ran.1.map Passage.made := by simp [made_ran]
  obtain ⟨passage, present, made⟩ := List.mem_map.mp second
  refine removed passage present "blockrun-1.txt" (by simp [made]) ?_
  simp [sight, files_closing]

/-- The statement on files that are left, for those two notes. -/
theorem files_left_twoNotes :
    host.Serves sight ∧
    noteExecutor.closed = false ∧
    noteExecutor.mode = .shell ∧
    (∀ turn ∈ twoNotes, ∀ number desk, sight.Proceeds desk (turn.pass number desk)) ∧
    (∀ passage ∈ ran.1, ∃ result, passage.result = .ok result) ∧
    closing.1 = .ok () ∧
    ∃ passage ∈ ran.1, "blockrun-1.txt" ∈ passage.made ∧
      ¬passage.CarriedOut sight closing.2.2.state := by
  refine ⟨serves, rfl, rfl, passing_twoNotes, ran_ok, closing_ok, ?_⟩
  have left : Executor.runAll host twoNotes noteExecutor empty = (ran.1, ran.2.1, ran.2.2) := rfl
  have closes : ran.2.1.close (host.watched fun _ desk => desk) (some Session.defaultLimit)
      (.start ran.2.2) = (.ok (), closing.2.1, closing.2.2) := by
    rw [← closing_ok]
    rfl
  have second : ["blockrun-1.txt"] ∈ ran.1.map Passage.made := by simp [made_ran]
  obtain ⟨passage, present, made⟩ := List.mem_map.mp second
  exact (Executor.files_left_of_close serves rfl rfl empty twoNotes passing_twoNotes
    (some Session.defaultLimit) _ closing_pass left ran_ok closes).1 "blockrun-1.txt"
    ⟨passage, present, by simp [made]⟩ (by simp [sight, files_closing])

end Desk
end Snippets
