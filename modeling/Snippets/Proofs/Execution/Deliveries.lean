import Mathlib.Data.List.Chain
import Snippets.Proofs.Execution.Intakes
import Snippets.Proofs.Execution.Remains

/-!
# What a session is sent

The runs of an executor in shell mode write to one shell.  The main statement is that the shell, as
long as it is found running, receives the commands of the runs that returned, one after the other
and nothing else, and that each of these is what the block and a temporary file of its own make it.
-/

namespace Snippets

/-- The bytes of the command of a run that returned.  Other runs have sent nothing. -/
def Executor.bytesOf : Except RunFailure RunResult → List UInt8
  | .ok result => Text.encodeUtf8 result.command.toList
  | .error _ => []

namespace Intake

variable {State : Type}

/-- What a shell has received, which is nothing if there is none. -/
def heard (intake : Intake State) (process : Option Nat) (state : State) : List UInt8 :=
  (process.map (intake.received state)).getD []

/-- Whether temporary files were made one after the other between two states, each at a path that
none had before. -/
structure Gives
    (intake : Intake State)
    (paths : List String)
    (before after : State) : Prop where
  isNew : ∀ path ∈ paths, ¬intake.given before path
  given : ∀ path, intake.given before path ∨ path ∈ paths → intake.given after path
  distinct : paths.Nodup

variable {intake : Intake State}

theorem heard_of_passes
    {before after : State}
    (passes : intake.Passes before after)
    (process : Option Nat) :
    intake.heard process after = intake.heard process before := by
  rw [heard, passes.received, heard]

theorem Gives.of_mono
    {before after : State}
    (keeps : ∀ path, intake.given before path → intake.given after path) :
    intake.Gives [] before after where
  isNew := by simp
  given := by simpa using keeps
  distinct := List.nodup_nil

theorem Gives.append
    {paths more : List String}
    {first second third : State}
    (earlier : intake.Gives paths first second)
    (later : intake.Gives more second third) :
    intake.Gives (paths ++ more) first third where
  isNew := fun path present => by
    rcases List.mem_append.mp present with before | after
    · exact earlier.isNew path before
    · exact fun given => later.isNew path after (earlier.given path (.inl given))
  given := fun path present => by
    rcases present with before | present
    · exact later.given path (.inl (earlier.given path (.inl before)))
    rcases List.mem_append.mp present with before | after
    · exact later.given path (.inl (earlier.given path (.inr before)))
    · exact later.given path (.inr after)
  distinct := by
    refine List.nodup_append.mpr ⟨earlier.distinct, later.distinct, ?_⟩
    rintro path before _ after rfl
    exact later.isNew path after (earlier.given path (.inr before))

end Intake

/-! ## Steps -/

section

variable {State : Type} {host : Host State} {intake : Intake State} {passes : State → State → Prop}

namespace Host.Delivers

/-- No step takes back a path. -/
theorem given
    (delivers : host.Delivers intake)
    {step : HostStep}
    {before after : State}
    (takes : host.Takes before after step) :
    ∀ path, intake.given before path → intake.given after path := by
  cases written : step.written? with
  | none => exact (delivers.passes step before after takes written).given
  | some entry =>
      match step with
      | .writeShell shell text (.ok _) => exact delivers.keeps shell text before after takes
      | .writeShell _ _ (.error _) | .createFile .. | .removeFile _ | .runCommand .. |
        .startShell .. | .isRunning .. | .endShell .. => cases written

theorem gives
    (delivers : host.Delivers intake)
    {step : HostStep}
    {before after : State}
    (form : ∀ ext content answer, step = .createFile ext content answer →
      Runner.isExtension ext = true)
    (takes : host.Takes before after step) :
    intake.Gives step.made?.toList before after := by
  cases made : step.made? with
  | none => exact .of_mono (delivers.given takes)
  | some path =>
      match step with
      | .createFile ext content (.ok path') =>
          cases made
          obtain ⟨isNew, isGiven⟩ :=
            delivers.isNew ext content path before after (form _ _ _ rfl) takes
          refine ⟨by simpa using isNew, fun other present => ?_, by simp⟩
          rcases present with earlier | same
          · exact delivers.given takes other earlier
          · simpa [List.mem_singleton.mp same] using isGiven
      | .createFile _ _ (.error _) | .writeShell .. | .removeFile _ | .runCommand .. |
        .startShell .. | .isRunning .. | .endShell .. => cases made

end Host.Delivers

namespace Watched

/-- Steps that write nothing leave what shells have received. -/
theorem Goes.passes_of_silent
    (delivers : host.Delivers intake)
    (passing : ∀ before after, passes before after → intake.Passes before after)
    {first last : Watched State}
    {steps : List HostStep}
    (silent : ∀ step ∈ steps, step.written? = none)
    (goes : Goes host passes first steps last) :
    intake.Passes first.state last.state :=
  goes.relates intake.Passes .refl .trans passing fun step present before after takes =>
    delivers.passes step before after takes (silent step present)

/-- The temporary files that are made in some steps have paths of their own. -/
theorem Goes.gives
    (delivers : host.Delivers intake)
    (passing : ∀ before after, passes before after → intake.Passes before after)
    {first last : Watched State}
    {steps : List HostStep}
    (forms : ∀ ext content answer, .createFile ext content answer ∈ steps →
      Runner.isExtension ext = true)
    (goes : Goes host passes first steps last) :
    intake.Gives (steps.filterMap HostStep.made?) first.state last.state := by
  induction goes with
  | nil => exact .of_mono fun _ given => given
  | @cons _ _ _ _ step steps passed takes _ inductionHypothesis =>
      have taken := delivers.gives
        (fun ext content answer same => forms ext content answer (same ▸ List.mem_cons_self)) takes
      have onward := inductionHypothesis fun ext content answer present =>
        forms ext content answer (List.mem_cons_of_mem _ present)
      have all := (Intake.Gives.of_mono (passing _ _ passed).given).append (taken.append onward)
      have split : (step :: steps).filterMap HostStep.made? =
          [] ++ (step.made?.toList ++ steps.filterMap HostStep.made?) := by
        cases made : step.made? <;> simp [made]
      rw [split]
      exact all

/-- A text that is written in the last step comes after all that its shell has received. -/
theorem Goes.received
    (delivers : host.Delivers intake)
    (passing : ∀ before after, passes before after → intake.Passes before after)
    {first last : Watched State}
    {shell : Nat}
    {text : String}
    (goes : Goes host passes first [.writeShell shell text (.ok ())] last) :
    intake.received last.state shell =
      intake.received first.state shell ++ Text.encodeUtf8 text.toList := by
  obtain ⟨moment, passed, takes, -⟩ := goes.taken
  rw [delivers.writeShell _ _ _ _ takes, (passing _ _ passed).received]

end Watched

theorem HostStep.IsQuiet.written?_eq_none {step : HostStep} (quiet : step.IsQuiet) :
    step.written? = none := by
  cases step with
  | startShell | isRunning => rfl
  | createFile | removeFile | runCommand | writeShell | endShell => cases quiet

theorem Executor.silent_tidying
    {path : String}
    {answer : Except SendFailure Unit}
    {step : HostStep}
    (present : step ∈ tidying path answer) :
    step.written? = none := by
  obtain ⟨other, rfl⟩ := mem_tidying present
  rfl

/-! ## Sessions -/

/-- Whether no look at a shell finds that it is gone. -/
def StaysAlive (steps : List HostStep) : Prop :=
  ∀ shell, .isRunning shell false ∉ steps

theorem StaysAlive.of_append
    {steps more : List HostStep}
    (alive : StaysAlive (steps ++ more)) :
    StaysAlive steps ∧ StaysAlive more :=
  ⟨fun shell present => alive shell (List.mem_append_left _ present),
    fun shell present => alive shell (List.mem_append_right _ present)⟩

section

variable
    (delivers : host.Delivers intake)
    (passing : ∀ before after, passes before after → intake.Passes before after)
    {session session' : Session}
    {steps : List HostStep}
    {first last : Watched State}

include delivers passing

/-- A shell that a session comes to has received what the session's shell had, and nothing if it
was just started. -/
theorem Session.Ensures.heard
    {answer : Except SendFailure Nat}
    (goes : Watched.Goes host passes first steps last)
    (ensures : session.Ensures steps answer session')
    (alive : StaysAlive steps) :
    intake.heard session'.process last.state = intake.heard session.process first.state := by
  have received := Intake.heard_of_passes <|
    goes.passes_of_silent delivers passing fun step present =>
      (ensures.isQuiet step present).written?_eq_none
  cases ensures with
  | kept held => exact received _
  | failed misses => exact received _
  | @started steps shell misses =>
      cases misses with
      | @gone old held => exact absurd (by simp) (alive old)
      | unused holdsNone =>
          obtain ⟨moment, -, takes, -⟩ := goes.taken
          simp [Intake.heard, holdsNone, delivers.isEmpty _ _ _ _ takes]

theorem Session.Sends.heard
    {text : String}
    {answer : Except SendFailure Unit}
    (goes : Watched.Goes host passes first steps last)
    (sends : session.Sends text steps answer session')
    (alive : StaysAlive steps) :
    intake.heard session'.process last.state =
      intake.heard session.process first.state ++
        Executor.bytesOf (Executor.resultOfSend text answer) := by
  cases sends with
  | failed ensures =>
      rw [ensures.heard delivers passing goes alive]
      exact (List.append_nil _).symm
  | @written steps shell answer _ ensures =>
      obtain ⟨between, asks, writes⟩ := Watched.goes_append_iff.mp goes
      rw [← ensures.heard delivers passing asks alive.of_append.1]
      cases answer with
      | ok _ =>
          have received := writes.received delivers passing
          have bytes : Executor.bytesOf (Executor.resultOfSend text (.ok ())) =
              Text.encodeUtf8 text.toList := rfl
          simpa [Intake.heard, ensures.process, Except.mapError, bytes] using received
      | error reason =>
          have silent := writes.passes_of_silent delivers passing (by simp [HostStep.written?])
          rw [Intake.heard_of_passes silent]
          exact (List.append_nil _).symm

/-! ## Runs -/

namespace Executor

theorem SendsBlock.heard
    {runner : Runner}
    {block : Block}
    {result : Except RunFailure RunResult}
    (goes : Watched.Goes host passes first steps last)
    (sends : SendsBlock runner block session steps result session')
    (alive : StaysAlive steps) :
    intake.heard session'.process last.state =
      intake.heard session.process first.state ++ bytesOf result := by
  cases sends with
  | text isShell sends => exact sends.heard delivers passing goes alive
  | noFile isOther =>
      have silent := goes.passes_of_silent delivers passing (by simp [HostStep.written?])
      rw [Intake.heard_of_passes silent]
      exact (List.append_nil _).symm
  | @file path steps answer _ isOther sends =>
      obtain ⟨sent, more, tidies⟩ := Watched.goes_append_iff.mp goes
      obtain ⟨made, creates, writes⟩ := Watched.goes_append_iff.mp more
      have silentFirst := creates.passes_of_silent delivers passing (by simp [HostStep.written?])
      have silentLast := tidies.passes_of_silent delivers passing fun _ => silent_tidying
      rw [Intake.heard_of_passes silentLast,
        sends.heard delivers passing writes alive.of_append.1.of_append.2,
        Intake.heard_of_passes silentFirst]

/-- A run adds the command that it returns to what the session's shell has received. -/
theorem Runs.heard
    {runners : Registry}
    {block : Block}
    {result : Except RunFailure RunResult}
    (goes : Watched.Goes host passes first steps last)
    (runs : Runs runners session block steps result session')
    (alive : StaysAlive steps) :
    intake.heard session'.process last.state =
      intake.heard session.process first.state ++ bytesOf result := by
  cases runs with
  | @refused shell held => exact absurd (by simp) (alive shell)
  | noRunner admits missing =>
      have silent := goes.passes_of_silent delivers passing fun step present =>
        (admits.isQuiet step present).written?_eq_none
      rw [Intake.heard_of_passes silent]
      exact (List.append_nil _).symm
  | sent admits found sends =>
      obtain ⟨between, asks, more⟩ := Watched.goes_append_iff.mp goes
      have silent := asks.passes_of_silent delivers passing fun step present =>
        (admits.isQuiet step present).written?_eq_none
      rw [sends.heard delivers passing more alive.of_append.2, Intake.heard_of_passes silent]

end Executor

end

/-! ## Temporary files -/

theorem Session.Sends.not_createFile
    {session session' : Session}
    {text ext content : String}
    {answer : Except SendFailure Unit}
    {created : Except HostFailure String}
    {steps : List HostStep}
    (sends : session.Sends text steps answer session') :
    .createFile ext content created ∉ steps := by
  intro present
  cases sends with
  | failed ensures => exact ensures.isQuiet _ present
  | written ensures =>
      rcases List.mem_append.mp present with asks | writes
      · exact ensures.isQuiet _ asks
      · simp at writes

/-- A run makes a temporary file only with the extension of its runner. -/
theorem Executor.Runs.ext_eq
    {runners : Registry}
    {block : Block}
    {session session' : Session}
    {steps : List HostStep}
    {result : Except RunFailure RunResult}
    {ext content : String}
    {answer : Except HostFailure String}
    (runs : Runs runners session block steps result session')
    (present : .createFile ext content answer ∈ steps) :
    ∃ runner, runners.get? block.language = some runner ∧ ext = runner.ext := by
  obtain ⟨runner, rest, found, sends, -, present⟩ := runs.sends_of_mem present not_false
  refine ⟨runner, found, ?_⟩
  cases sends with
  | text isShell sends => exact absurd present sends.not_createFile
  | noFile isOther =>
      cases List.mem_singleton.mp present
      rfl
  | @file path steps answer _ isOther sends =>
      rcases List.mem_append.mp present with present | tidies
      · rcases List.mem_cons.mp present with first | later
        · cases first
          rfl
        · exact absurd later sends.not_createFile
      · obtain ⟨other, same⟩ := mem_tidying tidies
        cases same

/-- The state in which a step leaves a host. -/
def Host.leaves (host : Host State) (before : State) : HostStep → State
  | .createFile ext content _ => (host.createFile ext content before).2
  | .removeFile path => host.removeFile path before
  | .runCommand command limit _ => (host.runCommand command limit before).2
  | .startShell name _ => (host.startShell name before).2
  | .isRunning shell _ => (host.isRunning shell before).2
  | .writeShell shell text _ => (host.writeShell shell text before).2
  | .endShell shell limit _ => (host.endShell shell limit before).2

theorem Host.leaves_eq_of_takes
    {before after : State}
    {step : HostStep}
    (takes : host.Takes before after step) :
    host.leaves before step = after := by
  cases step with
  | removeFile path => exact takes
  | createFile | runCommand | startShell | isRunning | writeShell | endShell =>
      exact congrArg Prod.snd takes

/-- Whether nothing becomes of the file at a path between a step and the next one, where each step
is given with the state in which it is taken. -/
def Intake.Spares
    (intake : Intake State)
    (host : Host State)
    (path : String)
    (earlier later : State × HostStep) : Prop :=
  intake.content later.1 path = intake.content (host.leaves earlier.1 earlier.2) path

namespace Passage

/-- Whether nobody changes files while a temporary file is written in a run. -/
def IsUndisturbed (intake : Intake State) (passage : Passage State) : Prop :=
  ∀ moment ext content answer, (moment, .createFile ext content answer) ∈ passage.steps →
    intake.undisturbed content moment

/-- What the command of a run that returned is for its block.  A file is named that was made for
this run, and it holds the code and a line feed when the command is sent unless something else has
become of it since. -/
inductive Posts
    (host : Host State)
    (intake : Intake State)
    (runners : Registry)
    (block : Block)
    (passage : Passage State)
    (command : String) : Prop
  /-- The code is sent as it is. -/
  | code
      (isShell : block.language = Language.shellscript)
      (made : passage.made = [])
      (text : command = "\x7b " ++ block.code ++ "\n\x7d\n")
  /-- A command on a temporary file is sent, and the file is removed after it. -/
  | file
      {runner : Runner}
      {path : String}
      {moment : State}
      {shell : Nat}
      (isOther : block.language ≠ Language.shellscript)
      (found : runners.get? block.language = some runner)
      (made : passage.made = [path])
      (text : command =
        "\x7b " ++ runner.render path ++
          "; rm -f \"" ++ path ++ "\" \"" ++ path ++ ".out" ++ "\"" ++ "\n\x7d\n")
      (last : passage.steps.getLast? = some (moment, .writeShell shell command (.ok ())))
      (holds :
        passage.IsUndisturbed intake → passage.steps.IsChain (intake.Spares host path) →
        intake.content moment path = some (Text.encodeUtf8 (block.code ++ "\n").toList))

end Passage

namespace Watched

/-- After steps that only ask for shells or start them, what was in a file is still there, unless
something became of it between them. -/
theorem Goes.content
    (delivers : host.Delivers intake)
    {path : String}
    {first last : Watched State}
    {step : HostStep}
    {steps : List HostStep}
    (quiet : ∀ step ∈ steps, step.IsQuiet)
    (goes : Goes host passes first (steps ++ [step]) last)
    (earlier : State × HostStep)
    (left : host.leaves earlier.1 earlier.2 = first.state) :
    ∃ moment record,
      last.steps = first.steps ++ record ++ [(moment, step)] ∧
      ((earlier :: (record ++ [(moment, step)])).IsChain (intake.Spares host path) →
        intake.content moment path = intake.content first.state path) := by
  induction steps generalizing first earlier with
  | nil =>
      obtain ⟨moment, -, -, same⟩ := goes.taken
      refine ⟨moment, [], by simpa using same, fun chain => ?_⟩
      rw [← left]
      exact (List.isChain_cons_cons.mp chain).1
  | cons asked steps inductionHypothesis =>
      cases goes with
      | @cons _ _ start after _ _ passed takes more =>
          obtain ⟨moment, record, same, onward⟩ := inductionHypothesis
            (fun other present => quiet other (List.mem_cons_of_mem _ present)) more
            (start, asked) (Host.leaves_eq_of_takes takes)
          refine ⟨moment, (start, asked) :: record, by simp [same], fun chain => ?_⟩
          obtain ⟨spared, rest⟩ := List.isChain_cons_cons.mp chain
          have rested := delivers.rests asked start after takes (quiet asked List.mem_cons_self)
          calc
            intake.content moment path = intake.content after path := onward rest
            _ = intake.content start path := congrFun rested path
            _ = intake.content first.state path := by rw [← left]; exact spared

/-- A temporary file still holds its content when a text is written for which it was made, unless
something has become of it since. -/
theorem Goes.holds
    (delivers : host.Delivers intake)
    {first last : Watched State}
    {asking front : List HostStep}
    {ext content path text : String}
    {shell : Nat}
    (quiet : ∀ step ∈ front, step.IsQuiet)
    (goes : Goes host passes first
      (asking ++ ([.createFile ext content (.ok path)] ++
        (front ++ [.writeShell shell text (.ok ())]))) last) :
    ∃ moment, last.steps.getLast? = some (moment, .writeShell shell text (.ok ())) ∧
      ((∀ start ext content answer, (start, .createFile ext content answer) ∈ last.steps →
          intake.undisturbed content start) →
        last.steps.IsChain (intake.Spares host path) →
        intake.content moment path = some (Text.encodeUtf8 content.toList)) := by
  obtain ⟨ready, -, more⟩ := goes_append_iff.mp goes
  obtain ⟨made, creates, more⟩ := goes_append_iff.mp more
  obtain ⟨start, -, created, madeSteps⟩ := creates.taken
  obtain ⟨moment, record, same, kept⟩ := more.content delivers quiet
    (start, .createFile ext content (.ok path)) (Host.leaves_eq_of_takes created)
  have split : last.steps = ready.steps ++
      ((start, .createFile ext content (.ok path)) ::
        (record ++ [(moment, .writeShell shell text (.ok ()))])) := by
    simp [same, madeSteps]
  refine ⟨moment, by simp [same], fun undisturbed chain => ?_⟩
  rw [split] at chain undisturbed
  rw [kept chain.right_of_append]
  exact delivers.holds ext content path start made.state created
    (undisturbed start ext content (.ok path) (by simp))

end Watched

/-- A run that returns has sent what its block asks for. -/
theorem Executor.Runs.posts
    (delivers : host.Delivers intake)
    {runners : Registry}
    {block : Block}
    {passage : Passage State}
    {session session' : Session}
    {steps : List HostStep}
    {result : RunResult}
    {state : State}
    {watched : Watched State}
    (goes : Watched.Goes host passes (.start state) steps watched)
    (runs : Runs runners session block steps (.ok result) session')
    (seen : passage.steps = watched.steps) :
    passage.Posts host intake runners block result.command := by
  have steps_eq : passage.steps.map Prod.snd = steps := by rw [seen, goes.map_steps]
  obtain ⟨first, rest, runner, rfl, admits, found, sent⟩ := runs.of_ok
  have noneAsking := Sight.filterMap_made?_of_quiet admits.isQuiet
  rcases sent.of_ok with ⟨isShell, rfl, sends⟩ | ⟨isOther, path, second, rfl, rfl, sends⟩
  · obtain ⟨front, shell, rfl, quiet, -⟩ := sends.written_last
    refine .code isShell ?_ rfl
    simp [Passage.made, steps_eq, noneAsking, Sight.filterMap_made?_of_quiet quiet,
      HostStep.made?]
  · obtain ⟨front, shell, rfl, quiet, -⟩ := sends.written_last
    obtain ⟨moment, last, holds⟩ := goes.holds delivers quiet
    have made : passage.made = [path] := by
      simp [Passage.made, steps_eq, noneAsking, Sight.filterMap_made?_of_quiet quiet,
        HostStep.made?]
    refine .file isOther found made ?_ (seen ▸ last) fun undisturbed chain =>
      holds (fun start ext content answer present =>
        undisturbed start ext content answer (seen ▸ present)) (seen ▸ chain)
    simp only [sessionCommand, compound, artifact, String.append_assoc]

/-! ## Runs one after the other -/

namespace Passage

/-- The bytes that a run has sent, which are those of the command that it returned. -/
def delivered (passage : Passage State) : List UInt8 :=
  Executor.bytesOf passage.result

/-- Whether the shell is found running by each look at it in a run. -/
def StaysAlive (passage : Passage State) : Prop :=
  Snippets.StaysAlive (passage.steps.map Prod.snd)

end Passage

namespace Executor

/-- What the runs of an executor come to, from one session and state to others. -/
structure Posted
    (host : Host State)
    (intake : Intake State)
    (runners : Registry)
    (session session' : Session)
    (before after : State)
    (turns : List (Turn State))
    (passages : List (Passage State)) : Prop where
  heard : (∀ passage ∈ passages, passage.StaysAlive) →
    intake.heard session'.process after =
      intake.heard session.process before ++ passages.flatMap Passage.delivered
  gives : intake.Gives (passages.flatMap Passage.made) before after
  posts : List.Forall₂ (fun turn passage => ∀ result, passage.result = .ok result →
    passage.Posts host intake runners turn.block result.command) turns passages

theorem Posted.nil
    (runners : Registry)
    (session : Session)
    (state : State) :
    Posted host intake runners session session state state [] [] where
  heard := fun _ => (List.append_nil _).symm
  gives := .of_mono fun _ given => given
  posts := .nil

/-- A run before others that come to something. -/
theorem Runs.posted
    (delivers : host.Delivers intake)
    {runners : Registry}
    (forms : ∀ language runner, runners.get? language = some runner →
      Runner.isExtension runner.ext = true)
    {turn : Turn State}
    (passing : ∀ number state, intake.Passes state (turn.pass number state))
    {turns : List (Turn State)}
    {passages : List (Passage State)}
    {session session' last : Session}
    {steps : List HostStep}
    {result : Except RunFailure RunResult}
    {state final : State}
    {watched : Watched State}
    (goes : Watched.Goes host turn.Brings (.start state) steps watched)
    (runs : Runs runners session turn.block steps result session')
    (rest : Posted host intake runners session' last watched.state final turns passages) :
    Posted host intake runners session last state final (turn :: turns)
      (⟨session.process, result, watched.steps⟩ :: passages) := by
  have steps_eq : watched.steps.map Prod.snd = steps := goes.map_steps
  have brings (before after : State) (brought : turn.Brings before after) :
      intake.Passes before after := by
    obtain ⟨number, rfl⟩ := brought
    exact passing number before
  refine ⟨fun alive => ?_, ?_, .cons (fun returned same => ?_) rest.posts⟩
  · have aliveFirst : Snippets.StaysAlive steps := steps_eq ▸ alive _ List.mem_cons_self
    have heardFirst := runs.heard delivers brings goes aliveFirst
    rw [rest.heard fun passage present => alive passage (List.mem_cons_of_mem _ present),
      heardFirst, List.flatMap_cons, ← List.append_assoc]
    rfl
  · rw [List.flatMap_cons, Passage.made, steps_eq]
    refine Intake.Gives.append (goes.gives delivers brings fun ext content answer present => ?_)
      rest.gives
    obtain ⟨runner, found, rfl⟩ := runs.ext_eq present
    exact forms _ _ found
  · dsimp only at same
    subst same
    exact runs.posts delivers goes rfl

theorem posted_runAll
    (delivers : host.Delivers intake)
    (turns : List (Turn State))
    (passing : ∀ turn ∈ turns, ∀ number state, intake.Passes state (turn.pass number state))
    {executor : Executor}
    {session : Session}
    (isOpen : executor.closed = false)
    (engine : executor.engine = .shell session)
    (forms : ∀ language runner, executor.runners.get? language = some runner →
      Runner.isExtension runner.ext = true)
    (state : State) :
    ∃ last,
      Posted host intake executor.runners session last state (runAll host turns executor state).2.2
        turns (runAll host turns executor state).1 ∧
      (runAll host turns executor state).2.1.engine = .shell last := by
  induction turns generalizing executor session state with
  | nil => exact ⟨session, .nil _ _ _, engine⟩
  | cons turn turns inductionHypothesis =>
      have brings (number : Nat) (state : State) : turn.Brings state (turn.pass number state) :=
        ⟨number, rfl⟩
      obtain ⟨steps, result, session', watched, goes, runs, same⟩ :=
        exists_runAll_cons_eq brings isOpen engine turns state
      have openAfter : { executor with engine := .shell session' }.closed = false := isOpen
      obtain ⟨last, rest, lastEngine⟩ := inductionHypothesis
        (fun other isOther => passing other (List.mem_cons_of_mem _ isOther)) openAfter rfl forms
        watched.state
      rw [same]
      exact ⟨last, runs.posted delivers forms (passing turn List.mem_cons_self) goes rest,
        lastEngine⟩

/-- The shell of an executor that was new and has run blocks one after the other has received the
commands of the runs that returned, in order and nothing else, if it was found running all along
and nobody else has written to it.  No two runs have made a temporary file at the same path, and
each command is what its block and its file make it. -/
theorem received_of_runs
    (delivers : host.Delivers intake)
    {executor : Executor}
    (isNew : executor.IsNew)
    (isShell : executor.mode = .shell)
    (forms : ∀ language runner, executor.runners.get? language = some runner →
      Runner.isExtension runner.ext = true)
    (start : State)
    (turns : List (Turn State))
    (passing : ∀ turn ∈ turns, ∀ number state, intake.Passes state (turn.pass number state))
    {passages : List (Passage State)}
    {used : Executor}
    {final : State}
    (ran : runAll host turns executor start = (passages, used, final))
    (alive : ∀ passage ∈ passages, passage.StaysAlive) :
    intake.heard used.process? final = passages.flatMap Passage.delivered ∧
    (passages.flatMap Passage.made).Nodup ∧
    List.Forall₂ (fun turn passage => ∀ result, passage.result = .ok result →
      passage.Posts host intake executor.runners turn.block result.command) turns passages := by
  obtain ⟨session, engine⟩ := exists_session isShell
  have unused : session.process = none := by simpa [process?, engine] using isNew.holdsNone
  obtain ⟨last, posted, lastEngine⟩ :=
    posted_runAll delivers turns passing isNew.isOpen engine forms start
  rw [ran] at posted lastEngine
  have holds : used.process? = last.process := by
    have engineAfter : used.engine = .shell last := lastEngine
    simp [process?, engineAfter]
  refine ⟨?_, posted.gives.distinct, posted.posts⟩
  rw [holds, posted.heard alive, unused]
  rfl

/-- A run starts a shell and writes the code of its block to it. -/
theorem run_of_unused
    {executor : Executor}
    {session : Session}
    {block : Block}
    {runner : Runner}
    {shell : Nat}
    {before ready after : State}
    (isOpen : executor.closed = false)
    (engine : executor.engine = .shell session)
    (unused : session.process = none)
    (runs : executor.runners.get? block.language = some runner)
    (isShell : block.language = Language.shellscript)
    (started : host.startShell session.shell before = (.ok shell, ready))
    (written : host.writeShell shell (compound block.code) ready = (.ok (), after)) :
    executor.run host block before =
      (.ok ⟨compound block.code, none⟩,
        { executor with engine := .shell { session with process := some shell } }, after) := by
  have admitted : executor.isClosed host before = (false, before) := by
    simp [isClosed, isOpen, engine, Session.hasEnded, unused]
  have sent : session.send host (compound block.code) before =
      (.ok (), { session with process := some shell }, after) := by
    simp [Session.send, Session.ensure, unused, started, written]
  simp only [run, admitted, runs, engine, runShell, if_pos isShell, sendText, sent]

/-- A run writes the command on its temporary file to a shell that is running. -/
theorem run_of_running
    {executor : Executor}
    {session : Session}
    {block : Block}
    {runner : Runner}
    {path : String}
    {shell : Nat}
    {before found made ready after : State}
    (isOpen : executor.closed = false)
    (engine : executor.engine = .shell session)
    (held : session.process = some shell)
    (runs : executor.runners.get? block.language = some runner)
    (isOther : block.language ≠ Language.shellscript)
    (asked : host.isRunning shell before = (true, found))
    (created : host.createFile runner.ext (fileContent block.code) found = (.ok path, made))
    (askedAgain : host.isRunning shell made = (true, ready))
    (written : host.writeShell shell (sessionCommand runner path) ready = (.ok (), after)) :
    executor.run host block before = (.ok ⟨sessionCommand runner path, none⟩, executor, after) := by
  have admitted : executor.isClosed host before = (false, found) := by
    simp [isClosed, isOpen, engine, Session.hasEnded, held, asked]
  have sent : session.send host (sessionCommand runner path) made = (.ok (), session, after) := by
    simp [Session.send, Session.ensure, held, askedAgain, written]
  have same : { executor with engine := .shell session } = executor := by rw [← engine]
  simp only [run, admitted, runs, engine, runShell, if_neg isOther, created, sendText, sent, same]

end Executor
end

/-! ## Three blocks on a machine -/

namespace Machine

open Shell

/-- A text that is short is written to a program that has not exited. -/
theorem writeShell_of_short
    {machine : Machine}
    {shell : Nat}
    {text : String}
    {worker : Worker}
    (found : machine.workers[shell]? = some worker)
    (runs : worker.hasExited = false)
    (short : ¬pipeSize < (worker.input ++ ofText text).length) :
    machine.writeShell shell text =
      (.ok (), { machine with
        workers := machine.workers.set shell
          { worker with input := worker.input ++ ofText text } }) := by
  simp only [writeShell, found]
  refine if_neg ?_
  rintro (exited | ⟨long, -⟩)
  · exact Bool.false_ne_true (runs.symm.trans exited)
  · exact short long

/-- A program that a session started, with the octets that it was sent. -/
def reader (input : List Char) : Worker :=
  ⟨ofText Session.defaultShell, input, false⟩

/-- A machine with the program that sessions start and an empty directory of temporary files, on
which some programs were started. -/
def furnished (workers : List Worker) : Machine :=
  { withWorkers workers with
    world := { (withWorkers []).world with
      tree := ⟨[(["bash"], .file shellContent .program), (["tmp"], .directory .directory)]⟩ }
    temporary := "/tmp" }

/-- That machine with the temporary file of the note. -/
def furnishedNote (workers : List Worker) : Machine :=
  (furnished workers).withFile 0 ["tmp", "blockrun-00000000.txt"]
    (Text.encodeUtf8 (Executor.fileContent note.code).toList)

/-- A block in a language without a runner. -/
def stranger : Block where
  start := 0
  stop := 0
  language := "unknown"
  code := ""
  anchor := 0

/-- A block in the language of the shell. -/
def script : Block where
  start := 0
  stop := 0
  language := Language.shellscript
  code := "true"
  anchor := 0

/-- The runners of notes and of the language of the shell. -/
def mixedRunners : Registry :=
  noteRunners.insert Language.shellscript ⟨"bash \"\x7bfile\x7d\"", ".sh"⟩

/-- An executor with these runners that may hold a shell. -/
def mixedExecutor (process : Option Nat) : Executor :=
  ⟨mixedRunners, .shell ⟨Session.defaultShell, process⟩, none, false, none⟩

/-- The three blocks, between whose runs nothing happens. -/
def mixedTurns : List (Turn Machine) :=
  [stranger, script, note].map fun block => ⟨block, fun _ machine => machine⟩

/-- What is sent of the script. -/
def scriptText : String :=
  Executor.compound script.code

/-- What is sent of the note. -/
def noteText : String :=
  Executor.sessionCommand noteRunner notePath

/-- The steps of the run of the script. -/
def scriptSteps : List (Machine × HostStep) :=
  [(furnished [], .startShell Session.defaultShell (.ok 0)),
    (furnished [reader []], .writeShell 0 scriptText (.ok ()))]

/-- The steps of the run of the note. -/
def noteSteps : List (Machine × HostStep) :=
  let before := furnished [reader (ofText scriptText)]
  let made := furnishedNote [reader (ofText scriptText)]
  [(before, .isRunning 0 true),
    (before, .createFile noteRunner.ext (Executor.fileContent note.code) (.ok notePath)),
    (made, .isRunning 0 true),
    (made, .writeShell 0 noteText (.ok ()))]

/-- What is seen of the three runs. -/
def mixedPassages : List (Passage Machine) :=
  [⟨none, .error (.noRunner "unknown" ["note", "shellscript"]), []⟩,
    ⟨none, .ok ⟨scriptText, none⟩, scriptSteps⟩, ⟨some 0, .ok ⟨noteText, none⟩, noteSteps⟩]

/-- The machine after them. -/
def mixedFinal : Machine :=
  furnishedNote [reader (ofText scriptText ++ ofText noteText)]

theorem hasShell_furnished (workers : List Worker) : (furnished workers).HasShell where
  program := by simp [furnished, FileTree.node?]
  here := rfl
  searches := rfl

theorem startShell_furnished :
    host.startShell Session.defaultShell (furnished []) = (.ok 0, furnished [reader []]) :=
  (hasShell_furnished []).startShell

/-- Texts that a program is sent come one after the other. -/
theorem writeShell_reader
    {machine : Machine}
    {input : List Char}
    {text : String}
    (alone : machine.workers = [reader input])
    (short : ¬pipeSize < (input ++ ofText text).length) :
    host.writeShell 0 text machine =
      (.ok (), { machine with workers := [reader (input ++ ofText text)] }) := by
  have found : machine.workers[0]? = some (reader input) := by simp [alone]
  have step : host.writeShell = writeShell := rfl
  rw [step, writeShell_of_short found rfl short, alone]
  rfl

theorem length_scriptText : (ofText scriptText).length = 9 := by
  decide

theorem length_noteText : (ofText noteText).length < 200 := by
  -- The parts are short enough to be evaluated.
  simp only [noteText, Executor.sessionCommand, Executor.compound, Executor.artifact,
    ofText_append, List.length_append]
  decide

theorem writeShell_furnished
    {input : List Char}
    {text : String}
    (short : ¬pipeSize < (input ++ ofText text).length) :
    host.writeShell 0 text (furnished [reader input]) =
      (.ok (), furnished [reader (input ++ ofText text)]) :=
  writeShell_reader rfl short

theorem writeShell_furnishedNote
    {input : List Char}
    {text : String}
    (short : ¬pipeSize < (input ++ ofText text).length) :
    host.writeShell 0 text (furnishedNote [reader input]) =
      (.ok (), furnishedNote [reader (input ++ ofText text)]) :=
  writeShell_reader rfl short

theorem writeShell_script :
    host.writeShell 0 scriptText (furnished [reader []]) =
      (.ok (), furnished [reader (ofText scriptText)]) := by
  have first := length_scriptText
  exact writeShell_furnished (by simp only [List.nil_append, pipeSize]; omega)

theorem createFile_furnished (workers : List Worker) :
    host.createFile noteRunner.ext (Executor.fileContent note.code) (furnished workers) =
      (.ok notePath, furnishedNote workers) := by
  have path : (furnished []).temporaryPath noteRunner.ext 0 = notePath := by decide
  have nothing : (furnished []).world.tree.node? ["tmp", "blockrun-00000000.txt"] = none := by
    decide
  have directory : (furnished []).world.tree.node? ["tmp"] = some (.directory .directory) := by
    decide
  have placed : (furnished workers).place? notePath = some ["tmp", "blockrun-00000000.txt"] :=
    place?_of_directory rfl directory (by decide) (by decide) (by decide) (by decide)
  have step : host.createFile = createFile := rfl
  rw [step]
  exact createFile_of_free path placed nothing (by decide)

theorem writeShell_note :
    host.writeShell 0 noteText (furnishedNote [reader (ofText scriptText)]) =
      (.ok (), mixedFinal) := by
  have first := length_scriptText
  have second := length_noteText
  exact writeShell_furnishedNote (by simp only [List.length_append, pipeSize]; omega)

theorem run_script :
    (mixedExecutor none).run (host.watched fun _ machine => machine) script
        (.start (furnished [])) =
      (.ok ⟨scriptText, none⟩, mixedExecutor (some 0),
        ⟨furnished [reader (ofText scriptText)], scriptSteps⟩) := by
  have found : mixedRunners.get? script.language =
      some ⟨"bash \"\x7bfile\x7d\"", ".sh"⟩ := by decide
  have started (steps : List (Machine × HostStep)) :
      (host.watched fun _ machine => machine).startShell Session.defaultShell
        ⟨furnished [], steps⟩ = _ :=
    Host.startShell_watched rfl startShell_furnished
  have written (steps : List (Machine × HostStep)) :
      (host.watched fun _ machine => machine).writeShell 0 scriptText
        ⟨furnished [reader []], steps⟩ = _ :=
    Host.writeShell_watched rfl writeShell_script
  have engine : (mixedExecutor none).engine = .shell ⟨Session.defaultShell, none⟩ := rfl
  exact Executor.run_of_unused rfl engine rfl found rfl (started _) (written _)

theorem run_note :
    (mixedExecutor (some 0)).run (host.watched fun _ machine => machine) note
        (.start (furnished [reader (ofText scriptText)])) =
      (.ok ⟨noteText, none⟩, mixedExecutor (some 0), ⟨mixedFinal, noteSteps⟩) := by
  have found : mixedRunners.get? note.language = some noteRunner := by decide
  have asked : host.isRunning 0 (furnished [reader (ofText scriptText)]) =
      (true, furnished [reader (ofText scriptText)]) := rfl
  have created := createFile_furnished [reader (ofText scriptText)]
  have askedAgain : host.isRunning 0 (furnishedNote [reader (ofText scriptText)]) =
      (true, furnishedNote [reader (ofText scriptText)]) := rfl
  exact Executor.run_of_running rfl rfl rfl found (by decide) (Host.isRunning_watched rfl asked)
    (Host.createFile_watched rfl created) (Host.isRunning_watched rfl askedAgain)
    (Host.writeShell_watched rfl writeShell_note)

theorem runAll_mixed :
    Executor.runAll host mixedTurns (mixedExecutor none) (furnished []) =
      (mixedPassages, mixedExecutor (some 0), mixedFinal) := by
  have strange : (mixedExecutor none).run (host.watched fun _ machine => machine) stranger
      (.start (furnished [])) =
        (.error (.noRunner "unknown" ["note", "shellscript"]), mixedExecutor none,
          ⟨furnished [], []⟩) := rfl
  simp only [mixedTurns, List.map_cons, List.map_nil, Executor.runAll, strange, run_script,
    run_note]
  rfl

theorem forms_mixed
    (language : String)
    (runner : Runner)
    (found : mixedRunners.get? language = some runner) :
    Runner.isExtension runner.ext = true := by
  rw [mixedRunners, noteRunners, Registry.get?_insert, Registry.get?_insert,
    Registry.get?_empty] at found
  split at found
  · cases found
    decide
  split at found
  · cases found
    decide
  · cases found

theorem alive_mixed : ∀ passage ∈ mixedPassages, passage.StaysAlive := by
  simp [mixedPassages, scriptSteps, noteSteps, Passage.StaysAlive, StaysAlive]

/-- Nothing happens on a machine while a short file is written. -/
theorem undisturbed_of_short
    {content : String}
    (instant : writingTime (Text.encodeUtf8 content.toList) = 0)
    (machine : Machine) :
    machine.Undisturbed content := by
  intro number names bytes made
  simp only [elapse, bytes, instant, if_true]
  exact .refl made

theorem delivered_mixed :
    mixedPassages.flatMap Passage.delivered =
      Text.encodeUtf8 scriptText.toList ++ Text.encodeUtf8 noteText.toList := by
  have sent
      (first second : String)
      (failure : RunFailure)
      (steps more : List (Machine × HostStep)) :
      [⟨none, .error failure, []⟩, ⟨none, .ok ⟨first, none⟩, steps⟩,
          ⟨some 0, .ok ⟨second, none⟩, more⟩].flatMap Passage.delivered =
        Text.encodeUtf8 first.toList ++ Text.encodeUtf8 second.toList := by
    simp [Passage.delivered, Executor.bytesOf]
  exact sent scriptText noteText _ scriptSteps noteSteps

/-- Nothing becomes of the file of the note in its run. -/
theorem spares_note : noteSteps.IsChain (intake.Spares host notePath) := by
  have created := createFile_furnished [reader (ofText scriptText)]
  have spared : intake.content (furnishedNote [reader (ofText scriptText)]) notePath =
      intake.content (host.createFile noteRunner.ext (Executor.fileContent note.code)
        (furnished [reader (ofText scriptText)])).2 notePath := by
    rw [created]
  exact .cons_cons rfl (.cons_cons spared (.cons_cons rfl (.singleton _)))

/-- The statement on what a shell receives, for a block that is refused, a script and a note. -/
theorem received_mixed :
    host.Delivers intake ∧
    (mixedExecutor none).IsNew ∧
    (mixedExecutor none).mode = .shell ∧
    (∀ language runner, (mixedExecutor none).runners.get? language = some runner →
      Runner.isExtension runner.ext = true) ∧
    (∀ turn ∈ mixedTurns, ∀ number machine,
      intake.Passes machine (turn.pass number machine)) ∧
    Executor.runAll host mixedTurns (mixedExecutor none) (furnished []) =
      (mixedPassages, mixedExecutor (some 0), mixedFinal) ∧
    (∀ passage ∈ mixedPassages, passage.StaysAlive) ∧
    intake.received mixedFinal 0 =
      Text.encodeUtf8 scriptText.toList ++ Text.encodeUtf8 noteText.toList ∧
    (mixedPassages.flatMap Passage.made).Nodup ∧
    intake.content (furnishedNote [reader (ofText scriptText)]) notePath =
      some (Text.encodeUtf8 (note.code ++ "\n").toList) := by
  have isNew : (mixedExecutor none).IsNew := ⟨rfl, rfl⟩
  have passing : ∀ turn ∈ mixedTurns, ∀ number machine,
      intake.Passes machine (turn.pass number machine) := by
    simp [mixedTurns, Intake.Passes.refl]
  obtain ⟨received, distinct, posts⟩ := Executor.received_of_runs delivers isNew rfl forms_mixed
    (furnished []) mixedTurns passing runAll_mixed alive_mixed
  refine ⟨delivers, isNew, rfl, forms_mixed, passing, runAll_mixed, alive_mixed, ?_, distinct, ?_⟩
  · exact received.trans delivered_mixed
  · rcases posts with _ | ⟨-, _ | ⟨-, _ | ⟨posted, -⟩⟩⟩
    cases posted ⟨noteText, none⟩ rfl with
    | code isShell => exact absurd isShell (by decide)
    | file isOther found made text last holds =>
        cases made
        cases last
        refine holds ?_ spares_note
        intro moment ext content answer present
        obtain ⟨-, -, rfl, -⟩ : moment = furnished [reader (ofText scriptText)] ∧
            ext = noteRunner.ext ∧ content = note.code ++ "\n" ∧ answer = .ok notePath := by
          simpa [noteSteps, Executor.fileContent] using present
        exact undisturbed_of_short (by decide) moment

end Machine
end Snippets
