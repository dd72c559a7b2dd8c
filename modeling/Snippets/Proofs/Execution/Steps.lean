import Snippets.Proofs.Execution.Closing

/-!
# The steps of a run

A run takes several steps on its host.  Which steps it takes depends on their answers only: it
asks once whether the shell that it holds is running, makes the temporary file of the block, asks
again, starts a shell if there is none, and writes.
-/

namespace Snippets

/-- A step of a host, with its answer. -/
inductive HostStep where
  /-- A temporary file is made. -/
  | createFile (ext content : String) (answer : Except HostFailure String)
  /-- A file is removed. -/
  | removeFile (path : String)
  /-- A command line is run. -/
  | runCommand (command : String) (limit : Option Seconds) (answer : Except CommandFailure Int)
  /-- A shell is started. -/
  | startShell (name : String) (answer : Except ShellFailure Nat)
  /-- Somebody asks whether a shell is running. -/
  | isRunning (shell : Nat) (answer : Bool)
  /-- A text is written to a shell. -/
  | writeShell (shell : Nat) (text : String) (answer : Except String Unit)
  /-- A shell is told to end. -/
  | endShell (shell : Nat) (limit : Option Seconds) (answer : Except HostFailure Unit)

/-- Whether a step only asks for a shell or starts one. -/
def HostStep.IsQuiet : HostStep → Prop
  | .isRunning _ _ => True
  | .startShell _ _ => True
  | _ => False

/-! ## The steps by their answers -/

namespace Session

/-- The steps by which an executor finds that its session has not ended. -/
inductive Admits (session : Session) : List HostStep → Prop
  | unused (holdsNone : session.process = none) : Admits session []
  | running {shell : Nat} (held : session.process = some shell) :
      Admits session [.isRunning shell true]

/-- The steps by which a session finds that it has no running shell. -/
inductive Misses (session : Session) : List HostStep → Prop
  | unused (holdsNone : session.process = none) : Misses session []
  | gone {shell : Nat} (held : session.process = some shell) :
      Misses session [.isRunning shell false]

/-- Why a text cannot be sent if no shell could be started. -/
def startFailure (session : Session) : ShellFailure → SendFailure
  | .missing => .shellMissing session.shell
  | .other failure => .other failure

/-- The steps by which a session comes to a shell that it may write to, the shell and the session
that is left. -/
inductive Ensures (session : Session) : List HostStep → Except SendFailure Nat → Session → Prop
  /-- The session holds a shell that is running. -/
  | kept {shell : Nat} (held : session.process = some shell) :
      Ensures session [.isRunning shell true] (.ok shell) session
  /-- A shell is started. -/
  | started
      {steps : List HostStep}
      {shell : Nat}
      (misses : session.Misses steps) :
      Ensures session (steps ++ [.startShell session.shell (.ok shell)]) (.ok shell)
        { session with process := some shell }
  /-- No shell can be started. -/
  | failed
      {steps : List HostStep}
      {failure : ShellFailure}
      (misses : session.Misses steps) :
      Ensures session (steps ++ [.startShell session.shell (.error failure)])
        (.error (session.startFailure failure)) session

/-- The steps by which a session sends a text, the answer and the session that is left. -/
inductive Sends (session : Session) (text : String) :
    List HostStep → Except SendFailure Unit → Session → Prop
  /-- The text is written to a shell. -/
  | written
      {steps : List HostStep}
      {shell : Nat}
      {answer : Except String Unit}
      {session' : Session}
      (ensures : session.Ensures steps (.ok shell) session') :
      Sends session text (steps ++ [.writeShell shell text answer])
        (answer.mapError .shellGone) session'
  /-- There is no shell to write to. -/
  | failed
      {steps : List HostStep}
      {reason : SendFailure}
      {session' : Session}
      (ensures : session.Ensures steps (.error reason) session') :
      Sends session text steps (.error reason) session'

/-- The steps by which a session is closed, and the answer. -/
inductive Ends (session : Session) (limit : Option Seconds) :
    List HostStep → Except HostFailure Unit → Prop
  | unused (holdsNone : session.process = none) : Ends session limit [] (.ok ())
  | ended
      {shell : Nat}
      {answer : Except HostFailure Unit}
      (held : session.process = some shell) :
      Ends session limit [.endShell shell limit answer] answer

end Session

namespace Executor

/-- The result of a run whose text was sent, or was not. -/
def resultOfSend (text : String) : Except SendFailure Unit → Except RunFailure RunResult
  | .ok () => .ok ⟨text, none⟩
  | .error failure => .error (.ofSend failure)

/-- The steps by which a temporary file is removed whose path could not be sent. -/
def tidying (path : String) : Except SendFailure Unit → List HostStep
  | .ok () | .error (.other _) => []
  | .error (.shellMissing _) | .error (.shellGone _) =>
      [.removeFile path, .removeFile (artifact path)]

/-- The steps by which a block is run in a session, the result and the session that is left. -/
inductive SendsBlock (runner : Runner) (block : Block) (session : Session) :
    List HostStep → Except RunFailure RunResult → Session → Prop
  /-- The code of the block is sent. -/
  | text
      {steps : List HostStep}
      {answer : Except SendFailure Unit}
      {session' : Session}
      (isShell : block.language = Language.shellscript)
      (sends : session.Sends (compound block.code) steps answer session') :
      SendsBlock runner block session steps (resultOfSend (compound block.code) answer) session'
  /-- There is no temporary file for the block. -/
  | noFile {failure : HostFailure} (isOther : block.language ≠ Language.shellscript) :
      SendsBlock runner block session
        [.createFile runner.ext (fileContent block.code) (.error failure)]
        (.error (.host failure)) session
  /-- A command on a temporary file is sent. -/
  | file
      {path : String}
      {steps : List HostStep}
      {answer : Except SendFailure Unit}
      {session' : Session}
      (isOther : block.language ≠ Language.shellscript)
      (sends : session.Sends (sessionCommand runner path) steps answer session') :
      SendsBlock runner block session
        ([.createFile runner.ext (fileContent block.code) (.ok path)] ++ steps ++
          tidying path answer)
        (resultOfSend (sessionCommand runner path) answer) session'

/-- The steps by which an open executor with the given runners runs a block in its session, the
result and the session that is left. -/
inductive Runs (runners : Registry) (session : Session) (block : Block) :
    List HostStep → Except RunFailure RunResult → Session → Prop
  /-- The shell of the session has exited. -/
  | refused {shell : Nat} (held : session.process = some shell) :
      Runs runners session block [.isRunning shell false] (.error .closed) session
  /-- There is no runner for the block. -/
  | noRunner
      {steps : List HostStep}
      (admits : session.Admits steps)
      (missing : runners.get? block.language = none) :
      Runs runners session block steps
        (.error (.noRunner block.language runners.languages)) session
  /-- The block is sent to the session. -/
  | sent
      {first rest : List HostStep}
      {runner : Runner}
      {result : Except RunFailure RunResult}
      {session' : Session}
      (admits : session.Admits first)
      (found : runners.get? block.language = some runner)
      (sends : SendsBlock runner block session rest result session') :
      Runs runners session block (first ++ rest) result session'

/-- All that is done with a temporary file whose path could not be sent is to remove files. -/
theorem mem_tidying
    {path : String}
    {answer : Except SendFailure Unit}
    {step : HostStep}
    (present : step ∈ tidying path answer) :
    ∃ other, step = .removeFile other := by
  match answer with
  | .ok () | .error (.other _) => simp [tidying] at present
  | .error (.shellMissing _) | .error (.shellGone _) =>
      simp only [tidying, List.mem_cons, List.not_mem_nil, or_false] at present
      exact present.elim (fun same => ⟨_, same⟩) (fun same => ⟨_, same⟩)

/-- Sending a text to a session answers by whether it was sent. -/
theorem sendText_eq
    {State : Type}
    (host : Host State)
    (text : String)
    (session : Session)
    (state : State) :
    sendText host text session state =
      (resultOfSend text (session.send host text state).1, (session.send host text state).2) := by
  unfold sendText
  rcases session.send host text state with ⟨answer, session', after⟩
  cases answer with
  | ok _ => rfl
  | error failure => rfl

end Executor

/-! ## What a run that succeeds does -/

namespace Session

theorem Admits.isQuiet
    {session : Session}
    {steps : List HostStep}
    (admits : session.Admits steps) :
    ∀ step ∈ steps, step.IsQuiet := by
  cases admits <;> simp [HostStep.IsQuiet]

theorem Misses.isQuiet
    {session : Session}
    {steps : List HostStep}
    (misses : session.Misses steps) :
    ∀ step ∈ steps, step.IsQuiet := by
  cases misses <;> simp [HostStep.IsQuiet]

theorem Ensures.isQuiet
    {session session' : Session}
    {steps : List HostStep}
    {answer : Except SendFailure Nat}
    (ensures : session.Ensures steps answer session') :
    ∀ step ∈ steps, step.IsQuiet := by
  have all {steps : List HostStep} (misses : session.Misses steps)
      (answer : Except ShellFailure Nat) :
      ∀ step ∈ steps ++ [.startShell session.shell answer], step.IsQuiet := by
    intro step present
    rcases List.mem_append.mp present with asked | started
    · exact misses.isQuiet step asked
    · rw [List.mem_singleton.mp started]
      trivial
  cases ensures with
  | kept held => simp [HostStep.IsQuiet]
  | started misses => exact all misses _
  | failed misses => exact all misses _

/-- A session holds the shell to which it writes. -/
theorem Ensures.process
    {session session' : Session}
    {steps : List HostStep}
    {shell : Nat}
    (ensures : session.Ensures steps (.ok shell) session') :
    session'.process = some shell := by
  cases ensures with
  | kept held => exact held
  | started misses => rfl

/-- The last step of a session that has sent a text is writing it to the shell that it holds. -/
theorem Sends.written_last
    {session session' : Session}
    {text : String}
    {steps : List HostStep}
    (sends : session.Sends text steps (.ok ()) session') :
    ∃ front shell,
      steps = front ++ [.writeShell shell text (.ok ())] ∧
      (∀ step ∈ front, step.IsQuiet) ∧
      session'.process = some shell := by
  generalize same : (Except.ok () : Except SendFailure Unit) = outcome at sends
  cases sends with
  | failed ensures => cases same
  | @written front shell answer _ ensures =>
      cases answer with
      | error reason => cases same
      | ok _ => exact ⟨front, shell, rfl, ensures.isQuiet, ensures.process⟩

end Session

namespace Executor

/-- A run that does more than to ask for shells and to start them has found a runner and sends the
block. -/
theorem Runs.sends_of_mem
    {runners : Registry}
    {session session' : Session}
    {block : Block}
    {steps : List HostStep}
    {result : Except RunFailure RunResult}
    {step : HostStep}
    (runs : Runs runners session block steps result session')
    (present : step ∈ steps)
    (acts : ¬step.IsQuiet) :
    ∃ runner rest,
      runners.get? block.language = some runner ∧
      SendsBlock runner block session rest result session' ∧
      rest <:+ steps ∧ step ∈ rest := by
  cases runs with
  | refused held =>
      rw [List.mem_singleton.mp present] at acts
      exact absurd trivial acts
  | noRunner admits missing => exact absurd (admits.isQuiet step present) acts
  | @sent first rest runner _ _ admits found sends =>
      rcases List.mem_append.mp present with asks | later
      · exact absurd (admits.isQuiet step asks) acts
      · exact ⟨runner, rest, found, sends, List.suffix_append first rest, later⟩

/-- The steps of a run that succeeded are quiet ones before the text is written, besides that a
temporary file is made unless the block is sent as it is. -/
inductive Succeeds (session' : Session) : List HostStep → Prop
  /-- A text is written. -/
  | text
      {front : List HostStep}
      {shell : Nat}
      {text : String}
      (quiet : ∀ step ∈ front, step.IsQuiet)
      (holds : session'.process = some shell) :
      Succeeds session' (front ++ [.writeShell shell text (.ok ())])
  /-- A file is made, and the text that is written uses it. -/
  | file
      {first second : List HostStep}
      {ext content path : String}
      {runner : Runner}
      {shell : Nat}
      (quietFirst : ∀ step ∈ first, step.IsQuiet)
      (quietSecond : ∀ step ∈ second, step.IsQuiet)
      (holds : session'.process = some shell) :
      Succeeds session'
        (first ++ ([.createFile ext content (.ok path)] ++
          (second ++ [.writeShell shell (sessionCommand runner path) (.ok ())])))

/-- A block that was sent with success was sent as it is or as a command on a temporary file, and
nothing was done afterwards. -/
theorem SendsBlock.of_ok
    {runner : Runner}
    {block : Block}
    {session session' : Session}
    {steps : List HostStep}
    {result : RunResult}
    (sends : SendsBlock runner block session steps (.ok result) session') :
    (block.language = Language.shellscript ∧ result = ⟨compound block.code, none⟩ ∧
      session.Sends (compound block.code) steps (.ok ()) session') ∨
    (block.language ≠ Language.shellscript ∧
      ∃ path rest,
        result = ⟨sessionCommand runner path, none⟩ ∧
        steps = [.createFile runner.ext (fileContent block.code) (.ok path)] ++ rest ∧
        session.Sends (sessionCommand runner path) rest (.ok ()) session') := by
  generalize same : (Except.ok result : Except RunFailure RunResult) = outcome at sends
  cases sends with
  | noFile isOther => cases same
  | @text _ answer _ isShell sends =>
      cases answer with
      | error failure => cases same
      | ok _ => exact .inl ⟨isShell, Except.ok.inj same, sends⟩
  | @file path rest answer _ isOther sends =>
      cases answer with
      | error failure => cases same
      | ok _ => exact .inr ⟨isOther, path, rest, Except.ok.inj same, List.append_nil _, sends⟩

/-- A run that succeeded has found a runner and sent the block. -/
theorem Runs.of_ok
    {runners : Registry}
    {session session' : Session}
    {block : Block}
    {steps : List HostStep}
    {result : RunResult}
    (runs : Runs runners session block steps (.ok result) session') :
    ∃ first rest runner,
      steps = first ++ rest ∧
      session.Admits first ∧
      runners.get? block.language = some runner ∧
      SendsBlock runner block session rest (.ok result) session' := by
  generalize same : (Except.ok result : Except RunFailure RunResult) = outcome at runs
  cases runs with
  | refused held => cases same
  | noRunner admits missing => cases same
  | sent admits found sends => exact ⟨_, _, _, rfl, admits, found, same ▸ sends⟩

theorem Runs.succeeds
    {runners : Registry}
    {session session' : Session}
    {block : Block}
    {steps : List HostStep}
    {result : RunResult}
    (runs : Runs runners session block steps (.ok result) session') :
    Succeeds session' steps := by
  obtain ⟨first, rest, runner, rfl, admits, -, sent⟩ := runs.of_ok
  rcases sent.of_ok with ⟨-, -, sends⟩ | ⟨-, path, second, -, rfl, sends⟩
  · obtain ⟨front, shell, rfl, quiet, holds⟩ := sends.written_last
    rw [← List.append_assoc]
    exact .text (List.forall_mem_append.mpr ⟨admits.isQuiet, quiet⟩) holds
  · obtain ⟨front, shell, rfl, quiet, holds⟩ := sends.written_last
    exact .file admits.isQuiet quiet holds

/-- The last step of a run that succeeded is writing to the shell that the session holds. -/
theorem Succeeds.written_last
    {session' : Session}
    {steps : List HostStep}
    (succeeds : Succeeds session' steps) :
    ∃ front shell text,
      steps = front ++ [.writeShell shell text (.ok ())] ∧ session'.process = some shell := by
  cases succeeds with
  | text quiet holds => exact ⟨_, _, _, rfl, holds⟩
  | @file first second ext content path runner shell quietFirst quietSecond holds =>
      refine ⟨first ++ [.createFile ext content (.ok path)] ++ second, shell,
        sessionCommand runner path, ?_, holds⟩
      simp only [List.append_assoc]

end Executor

end Snippets
