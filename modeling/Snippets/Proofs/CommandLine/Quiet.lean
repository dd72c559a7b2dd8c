import Mathlib.Data.List.Basic
import Snippets.Proofs.CommandLine.ExitCodes
import Snippets.Proofs.Config.Overriding
import Snippets.Proofs.Terminal.LiteralText

/-!
# Quiet runs

A run that is asked to be quiet says nothing before the block is run and nothing if all goes well.
The main statement says that it only says less: the same block is run, the host is left as it is
after a run that is not quiet, and both end in the same way.  This holds as long as the line that a
quiet run leaves out can be shown.  Where it cannot, because the language of the block reads as
markup that is wrong, the run that is not quiet ends before the block is run.
-/

namespace Snippets

/-! ## Brackets in languages -/

theorem Text.isNoForm_bracket : IsNoForm '[' :=
  ⟨by decide +kernel, by decide, by decide, by decide, by decide⟩

/-- The canonical id of a tag without opening brackets has none. -/
theorem Language.bracket_not_mem_resolve
    {tag : String}
    (plain : '[' ∉ tag.toList) :
    '[' ∉ (resolve tag).toList := by
  have targets : ∀ entry ∈ aliases, '[' ∉ entry.2.toList := by decide
  rcases resolve_cases tag with ⟨-, present⟩ | ⟨-, -, same⟩
  · exact targets (Text.lowercase tag, resolve tag) present
  · rw [same, Text.lowercase, String.toList_ofList]
    exact fun present => plain (Text.isNoForm_bracket.mem_of_mem_lowerFrom present)

/-- The tag of a fence has no brackets. -/
theorem Fence.bracket_not_mem_tag
    {text tag : String}
    (opens : openingTag? text = some tag) :
    '[' ∉ tag.toList := by
  rcases openingTag?_eq_some_iff.mp opens with ⟨word, tagged, rfl⟩ | ⟨-, rfl⟩
  · rw [Text.lowercase, String.toList_ofList, String.toList_ofList]
    intro present
    have isWord := tagged.areWords _ (Text.isNoForm_bracket.mem_of_mem_lowerFrom present)
    exact absurd isWord (by decide)
  · decide

theorem Fence.bracket_not_mem_language
    {isSupported : String → Bool}
    {lines : List Line}
    {opening closing : Nat}
    {block : Block}
    (found : between? isSupported lines opening closing = some block) :
    '[' ∉ block.language.toList := by
  rw [between?, Option.bind_eq_bind, Option.bind_eq_some_iff] at found
  obtain ⟨line, -, found⟩ := found
  rw [Option.bind_eq_bind, Option.bind_eq_some_iff] at found
  obtain ⟨tag, opens, found⟩ := found
  split at found
  · obtain rfl := Option.some.inj found
    exact Language.bracket_not_mem_resolve (bracket_not_mem_tag opens)
  · cases found

/-- Only the language that a document itself has can bring a bracket into that of a block. -/
theorem Document.bracket_not_mem_language
    {isSupported : String → Bool}
    {document : Document}
    {block : Block}
    (plain : '[' ∉ document.language.toList)
    (present : block ∈ document.blocks isSupported) :
    '[' ∉ block.language.toList := by
  unfold blocks at present
  split at present
  · obtain ⟨opening, -, closing, -, found⟩ := Fence.exists_between?_of_mem_blocks present
    exact Fence.bracket_not_mem_language found
  · rwa [(Section.supported_of_mem_blocks present).2]

/-- Only a language that is given for a file can bring a bracket into that of its document. -/
theorem DocumentFile.bracket_not_mem_languageFor
    {language : Option String}
    (plain : ∀ tag, language = some tag → '[' ∉ tag.toList)
    (path : Path) :
    '[' ∉ (languageFor path language).toList := by
  have known : ∀ language ∈ Language.markdown :: Language.plaintext ::
      languageOfSuffix.map Prod.snd, '[' ∉ language.toList := by
    decide
  unfold languageFor
  split
  · rename_i tag given
    exact Language.bracket_not_mem_resolve (plain tag (Option.eq_some_of_filter_eq_some given))
  · exact known _ (languageOf_mem path)

namespace CommandLine

open Terminal

/-- The document that is opened is the one that is loaded for the request. -/
theorem loadDocument_of_opened
    {environment : Environment}
    {subject : Subject}
    {opened : Opened}
    (opens : openSubject environment subject = .ok opened) :
    loadDocument environment subject = .ok opened.document := by
  unfold openSubject at opens
  cases loads : loadConfig environment subject.config with
  | error refusal =>
      rw [loads] at opens
      cases opens
  | ok config =>
      cases reads : loadDocument environment subject with
      | error refusal =>
          rw [loads, reads] at opens
          cases opens
      | ok document =>
          rw [loads, reads] at opens
          cases opens
          rfl

theorem exists_load_of_loadDocument
    {environment : Environment}
    {subject : Subject}
    {document : Document}
    (reads : loadDocument environment subject = .ok document) :
    ∃ path, DocumentFile.load environment path subject.language subject.kind = .ok document := by
  unfold loadDocument at reads
  cases located : filePath environment subject.file with
  | error refusal =>
      rw [located] at reads
      cases reads
  | ok path =>
      rw [located] at reads
      exact ⟨path, mapError_eq_ok_iff.mp reads⟩

/-- What a request leads to is a block of the document that is loaded for it. -/
theorem exists_load_of_target
    {environment : Environment}
    {request : RunRequest}
    {opened : Opened}
    {block : Block}
    (found : target environment request = .ok (opened, block)) :
    block ∈ opened.document.blocks opened.config.registry.contains ∧
      ∃ path, DocumentFile.load environment path request.subject.language request.subject.kind =
        .ok opened.document := by
  have single : ¬request.line.isSome = request.index.isSome := fun unclear => by
    simp [target, unclear, bind, Except.bind, throw, throwThe, MonadExceptOf.throw] at found
  cases opens : openSubject environment request.subject with
  | error refusal =>
      rw [target_of_not_opened single opens] at found
      cases found
  | ok subject =>
      rw [target_eq opens single request.quiet] at found
      cases selected : selectBlock subject.blocks request.line request.index with
      | error refusal =>
          rw [selected] at found
          cases found
      | ok chosen =>
          rw [selected] at found
          cases found
          refine ⟨opened_eq opens ▸ mem_of_selectBlock selected, ?_⟩
          exact exists_load_of_loadDocument (loadDocument_of_opened opens)

/-! ## The word that asks for silence -/

/-- A request with the option to be quiet, if it is one for a run. -/
def Request.silenced : Request → Request
  | .run request => .run { request with quiet := true }
  | other => other

namespace Arguments

/-- Arguments with one more option before all others. -/
def withFirst (entry : Flag × String) (arguments : Arguments) : Arguments :=
  { arguments with flags := entry :: arguments.flags }

variable (entry : Flag × String) (known : List Flag)

theorem letters_withFirst (found : Arguments) (cluster : List Char) (rest : List String) :
    letters known (found.withFirst entry) cluster rest =
      (letters known found cluster rest).map fun read => (read.1.withFirst entry, read.2) := by
  induction cluster generalizing found with
  | nil => rfl
  | cons letter more inductionHypothesis =>
      unfold letters
      split
      · rfl
      · rename_i flag _
        split
        · exact inductionHypothesis (found.addFlag flag "")
        · split
          · rfl
          · cases rest <;> rfl

theorem long_withFirst (found : Arguments) (argument : List Char) (rest : List String) :
    long known (found.withFirst entry) argument rest =
      (long known found argument rest).map fun read => (read.1.withFirst entry, read.2) := by
  unfold long
  dsimp only
  split
  · rfl
  · split <;> rfl

/-- An option that is given first takes no part in how the other arguments are read. -/
theorem readFrom_withFirst (fuel : Nat) (found : Arguments) (rest : List String) :
    readFrom known fuel (found.withFirst entry) rest =
      (readFrom known fuel found rest).map (withFirst entry) := by
  induction fuel generalizing found rest with
  | zero => cases rest <;> rfl
  | succ fuel inductionHypothesis =>
      cases rest with
      | nil => rfl
      | cons argument rest =>
          unfold readFrom
          split
          · rfl
          · rw [long_withFirst]
            cases long known found _ rest with
            | none => rfl
            | some read => exact inductionHypothesis read.1 read.2
          · rw [letters_withFirst]
            cases letters known found _ rest with
            | none => rfl
            | some read => exact inductionHypothesis read.1 read.2
          · exact inductionHypothesis (found.addOperands [argument]) rest

/-- An option counts for no other one. -/
theorem value?_withFirst
    {entry : Flag × String}
    {flag : Flag}
    (differs : flag ≠ entry.1)
    (arguments : Arguments) :
    (arguments.withFirst entry).value? flag = arguments.value? flag := by
  have absent : [entry].lookup flag = none := by
    rw [List.lookup_cons, beq_eq_false_iff_ne.mpr differs, List.lookup_nil]
  rw [value?, withFirst, List.reverse_cons, List.lookup_append, absent, Option.or_none, value?]

theorem readValue_withFirst
    {entry : Flag × String}
    {flag : Flag}
    (differs : flag ≠ entry.1)
    {Value : Type}
    (reader : String → Option Value)
    (arguments : Arguments) :
    (arguments.withFirst entry).readValue flag reader = arguments.readValue flag reader := by
  rw [readValue, value?_withFirst differs, readValue]

/-- The option to be quiet changes nothing else of what is to be run. -/
theorem run?_withFirst (arguments : Arguments) :
    Request.run? (arguments.withFirst (.quiet, "")) =
      (Request.run? arguments).map Request.silenced := by
  have value (flag : Flag) (differs : flag ≠ .quiet) :
      (arguments.withFirst (.quiet, "")).value? flag = arguments.value? flag :=
    value?_withFirst differs arguments
  have read (flag : Flag) (differs : flag ≠ .quiet) {Value : Type}
      (reader : String → Option Value) :
      (arguments.withFirst (.quiet, "")).readValue flag reader =
        arguments.readValue flag reader :=
    readValue_withFirst differs reader arguments
  have subject : (arguments.withFirst (.quiet, "")).subject? = arguments.subject? := by
    simp only [subject?, value .language (by decide), value .config (by decide),
      read .kind (by decide)]
    rfl
  have quiet : (arguments.withFirst (.quiet, "")).has .quiet = true := by
    simp [has, withFirst]
  simp only [Request.run?, subject, quiet, read .line (by decide), read .index (by decide)]
  cases arguments.subject? with
  | none => rfl
  | some subject =>
      cases arguments.readValue .line positive? with
      | none => rfl
      | some line => cases arguments.readValue .index positive? <;> rfl

end Arguments

namespace Request

/-- The words that ask a run to be quiet. -/
def quietWords : List String := ["--quiet", "-q"]

/-- A word that asks a run to be quiet is read as the option. -/
theorem read_quiet
    {word : String}
    (isWord : word ∈ quietWords)
    (rest : List String) :
    Arguments.read Flag.ofRun (word :: rest) =
      (Arguments.read Flag.ofRun rest).map (Arguments.withFirst (.quiet, "")) := by
  have first : Arguments.read Flag.ofRun (word :: rest) =
      Arguments.readFrom Flag.ofRun rest.length
        (Arguments.withFirst (.quiet, "") ⟨[], []⟩) rest := by
    rcases List.mem_pair.mp isWord with rfl | rfl
    · rfl
    · rfl
  rw [first, Arguments.readFrom_withFirst]
  rfl

/-- Whoever asks a run to be quiet asks for the same in all else. -/
theorem ofArguments?_quiet
    {word : String}
    (isWord : word ∈ quietWords)
    (rest : List String) :
    ofArguments? ("run" :: word :: rest) = (ofArguments? ("run" :: rest)).map silenced := by
  have asked (rest : List String) :
      ofArguments? ("run" :: rest) = ofCommand?.build Flag.ofRun run? rest := by
    have first : beforeCommand false ("run" :: rest) = some (false, "run" :: rest) := by
      rfl
    rw [ofArguments?, first]
    rfl
  rw [asked, asked, ofCommand?.build, ofCommand?.build, read_quiet isWord]
  cases Arguments.read Flag.ofRun rest with
  | none => rfl
  | some found =>
      have help : (found.withFirst (.quiet, "")).has .help = found.has .help := by
        simp [Arguments.has, Arguments.withFirst]
      change (if (found.withFirst (.quiet, "")).has .help then some .help
          else run? (found.withFirst (.quiet, ""))) =
        (if found.has .help then some .help else run? found).map silenced
      rw [help, Arguments.run?_withFirst]
      cases found.has .help <;> rfl

end Request

/-! ## What a quiet run leaves out -/

/-- A report on a result says less to a quiet run, and ends in the same way. -/
theorem resultReport_quiet
    (quiet : Bool)
    (microseconds : Nat)
    (result : RunResult) :
    (resultReport true microseconds result).ending =
        (resultReport quiet microseconds result).ending ∧
      (resultReport true microseconds result).lines.Sublist
        (resultReport quiet microseconds result).lines := by
  obtain ⟨shown, reported⟩ := exists_resultReport quiet microseconds result
  obtain ⟨quietShown, quietReported⟩ := exists_resultReport true microseconds result
  refine ⟨by rw [reported, quietReported], ?_⟩
  obtain ⟨command, status⟩ := result
  cases status with
  | none => exact List.Sublist.refl _
  | some status =>
      unfold resultReport
      dsimp only
      split
      · exact List.nil_sublist _
      · exact List.Sublist.refl _

/-- Only on a result there is less to say to a quiet run. -/
theorem outcomeReport_quiet
    (quiet : Bool)
    (microseconds : Nat)
    (outcome : Outcome) :
    (outcomeReport true microseconds outcome).ending =
        (outcomeReport quiet microseconds outcome).ending ∧
      (outcomeReport true microseconds outcome).lines.Sublist
        (outcomeReport quiet microseconds outcome).lines := by
  match outcome with
  | .ran (.ok result) (.ok ()) => exact resultReport_quiet quiet microseconds result
  | .unready _ | .ran (.error _) (.ok ()) | .ran (.error _) (.error _) | .ran (.ok _) (.error _) =>
      exact ⟨rfl, List.Sublist.refl _⟩

theorem bracket_not_mem_title (block : Block) (document : Document) :
    '[' ∉ (block.title document).toList := by
  unfold Block.title
  split
  · decide
  · split <;> simp [Int.toString_eq_repr, bracket_not_mem_repr]

/-- A run of a block in a language without brackets can be announced. -/
theorem announcement_of_not_mem
    {block : Block}
    (plain : '[' ∉ block.language.toList)
    (opened : Opened) :
    ∃ lines, (announcement opened block).lines = .ok lines := by
  refine lines_of_not_mem .info ?_
  simpa [announcement, bracket_not_mem_title] using plain

/-- A request leads to a block in a language without brackets, unless it gives a language that has
one itself. -/
theorem bracket_not_mem_of_target
    {environment : Environment}
    {request : RunRequest}
    {opened : Opened}
    {block : Block}
    (found : target environment request = .ok (opened, block))
    (plain : ∀ tag, request.subject.language = some tag → '[' ∉ tag.toList) :
    '[' ∉ block.language.toList := by
  obtain ⟨present, path, loaded⟩ := exists_load_of_target found
  refine Document.bracket_not_mem_language ?_ present
  rw [DocumentFile.language_of_load loaded]
  exact DocumentFile.bracket_not_mem_languageFor plain path

/-- Whether what a request says before a run can be shown, if it says anything and comes to a
run. -/
def RunRequest.Announces (request : RunRequest) (environment : Environment) : Prop :=
  ∀ opened block, target environment request = .ok (opened, block) →
    ∃ lines, Message.allLines (if request.quiet then [] else [announcement opened block]) =
      .ok lines

/-- Whether one command does what another one does and says less: they leave the same executors
and the same host and end in the same way. -/
structure OnlySilences
    {State : Type}
    (loud silent : Report × Pool × State) : Prop where
  /-- Both end in the same way. -/
  ending : silent.1.ending = loud.1.ending
  /-- Both leave the same behind. -/
  same : silent.2 = loud.2
  /-- All that the one says is said by the other, in the same order. -/
  lines : silent.1.lines.Sublist loud.1.lines

section

variable {State : Type}

theorem OnlySilences.refl (outcome : Report × Pool × State) : OnlySilences outcome outcome :=
  ⟨rfl, rfl, List.Sublist.refl _⟩

variable (clocked : ClockedHost State) (environment : Environment)

/-- The block that a request leads to does not depend on whether it is to be run quietly. -/
theorem target_quiet (request : RunRequest) (quiet : Bool) :
    target environment { request with quiet := quiet } = target environment request := rfl

/-- A request that can be announced comes to the same if it is to be quiet. -/
theorem runBlockIn_quiet
    {request : RunRequest}
    (announces : request.Announces environment)
    (pool : Pool)
    (state : State) :
    OnlySilences (runBlockIn clocked environment request pool state)
      (runBlockIn clocked environment { request with quiet := true } pool state) := by
  unfold runBlockIn
  rw [target_quiet environment request true]
  cases found : target environment request with
  | error refusal => exact .refl _
  | ok target =>
      obtain ⟨opened, block⟩ := target
      obtain ⟨lines, announced⟩ := announces opened block found
      simp only [announced]
      rcases performIn clocked.host opened.config block pool state with ⟨outcome, after, last⟩
      obtain ⟨ending, less⟩ :=
        outcomeReport_quiet request.quiet (clocked.clock last - clocked.clock state) outcome
      exact ⟨ending, rfl, less.trans (List.sublist_append_right lines _)⟩

/-- A run that cannot say what it has to say first ends with nothing done. -/
theorem runBlockIn_of_unshown
    {request : RunRequest}
    {opened : Opened}
    {block : Block}
    {failure : Markup.Failure}
    (found : target environment request = .ok (opened, block))
    (unshown : Message.allLines (if request.quiet then [] else [announcement opened block]) =
      .error failure)
    (pool : Pool)
    (state : State) :
    runBlockIn clocked environment request pool state =
      (.escaping (.markup failure), pool, state) := by
  simp only [runBlockIn, found, unshown]

/-- A quiet run does nothing but run the block. -/
theorem runBlockIn_of_quiet
    {request : RunRequest}
    {opened : Opened}
    {block : Block}
    (found : target environment request = .ok (opened, block))
    (quiet : request.quiet = true)
    (pool : Pool)
    (state : State) :
    let performed := performIn clocked.host opened.config block pool state
    runBlockIn clocked environment request pool state =
      (outcomeReport true (clocked.clock performed.2.2 - clocked.clock state) performed.1,
        performed.2) := by
  have nothing : Message.allLines [] = .ok [] := rfl
  simp only [runBlockIn, found, quiet, if_true, nothing]
  rfl

/-- A request that cannot be announced ends before anything is done. -/
theorem runBlockIn_of_not_announces
    {request : RunRequest}
    (fails : ¬request.Announces environment) :
    ∃ failure, ∀ pool (state : State), runBlockIn clocked environment request pool state =
      (.escaping (.markup failure), pool, state) := by
  unfold RunRequest.Announces at fails
  push Not at fails
  obtain ⟨opened, block, found, unshown⟩ := fails
  cases announced :
      Message.allLines (if request.quiet then [] else [announcement opened block]) with
  | ok lines => exact absurd announced (unshown lines)
  | error failure => exact ⟨failure, runBlockIn_of_unshown clocked environment found announced⟩

end

/-- A run of a block that is asked to be quiet only says less than the run that is not, wherever
among the arguments it is asked for, if that one can be announced, which it can unless a language
with an opening bracket is asked for.  A run that cannot be announced ends before anything is
done. -/
theorem only_silences_of_announces
    {State : Type}
    (clocked : ClockedHost State)
    (environment : Environment)
    (loud : List String)
    (pool : Pool)
    (state : State) :
    (∀ word ∈ Request.quietWords, ∀ rest,
      Request.ofArguments? ("run" :: word :: rest) =
        (Request.ofArguments? ("run" :: rest)).map Request.silenced) ∧
    (∀ silent, Request.ofArguments? silent = (Request.ofArguments? loud).map Request.silenced →
      (∀ request, Request.ofArguments? loud = some (.run request) →
        request.Announces environment) →
      OnlySilences (runIn clocked environment loud pool state)
        (runIn clocked environment silent pool state)) ∧
    (∀ request : RunRequest,
      (∀ tag, request.subject.language = some tag → '[' ∉ tag.toList) →
      request.Announces environment) ∧
    ∀ request, Request.ofArguments? loud = some (.run request) →
      ¬request.Announces environment →
      ∃ failure, runIn clocked environment loud pool state =
        (.escaping (.markup failure), pool, state) := by
  refine ⟨fun word isWord rest => Request.ofArguments?_quiet isWord rest,
    fun silent asked announces => ?_, fun request plain opened block found => ?_,
    fun request asks fails => ?_⟩
  · simp only [runIn, asked]
    cases asks : Request.ofArguments? loud with
    | none => exact .refl _
    | some request =>
        cases request with
        | run request =>
            exact runBlockIn_quiet clocked environment (announces request asks) pool state
        | list subject => exact .refl _
        | runners path => exact .refl _
        | help => exact .refl _
  · obtain ⟨shown, announced⟩ :=
      announcement_of_not_mem (bracket_not_mem_of_target found plain) opened
    cases request.quiet with
    | true => exact ⟨[], rfl⟩
    | false => exact ⟨[shown].flatten, by simp [Message.allLines, announced]⟩
  · obtain ⟨failure, ended⟩ := runBlockIn_of_not_announces clocked environment fails
    exact ⟨failure, by simp only [runIn, asks, answerIn, ended pool state]⟩

/-- The statement on quiet runs, for a section of the shell script that fails. -/
theorem only_silences_of_announces_script :
    (∀ request, Request.ofArguments? ["run", "--index=2", "a.sh"] = some (.run request) →
      request.Announces scriptEnvironment) ∧
    OnlySilences
      (runIn ⟨statusHost 3, fun _ => 0⟩ scriptEnvironment ["run", "--index=2", "a.sh"] .empty ())
      (runIn ⟨statusHost 3, fun _ => 0⟩ scriptEnvironment ["run", "--quiet", "--index=2", "a.sh"]
        .empty ()) := by
  have asked : Request.ofArguments? ["run", "--index=2", "a.sh"] =
      some (.run ⟨scriptSubject none, none, some 2, false⟩) := by decide
  obtain ⟨words, silences, announces, -⟩ :=
    only_silences_of_announces ⟨statusHost 3, fun _ => 0⟩ scriptEnvironment
      ["run", "--index=2", "a.sh"] .empty ()
  have announced : ∀ request,
      Request.ofArguments? ["run", "--index=2", "a.sh"] = some (.run request) →
      request.Announces scriptEnvironment := by
    intro request asks
    rw [asked] at asks
    cases asks
    exact announces _ nofun
  exact ⟨announced, silences _ (words "--quiet" (by decide) _) announced⟩

/-! ## A language that reads as markup -/

/-- A configuration with a runner for a language that reads as the end of bold text. -/
def closingContent : List UInt8 :=
  Text.encodeUtf8
    "runners:\n  '[/b]':\n    command: 'echo ran; : \"\x7bfile\x7d\"'\n    ext: .b\n".toList

/-- A directory with a text and the configuration. -/
def closingEnvironment : Environment where
  tree :=
    ⟨[(["x.txt"], .file (Text.encodeUtf8 "a\n".toList) .file),
      ([".blockrun.yaml"], .file closingContent .file)]⟩
  workingDirectory := []
  bindings := []

/-- The configuration as it is read. -/
def closingConfig : Config where
  overrides := Registry.empty.insertAll [("[/b]", ⟨"echo ran; : \"\x7bfile\x7d\"", ".b"⟩)]

/-- The text as it is read. -/
def closingDocument : Document :=
  ⟨[⟨"a"⟩, ⟨""⟩], "[/b]", .plain⟩

/-- The text, with the language given for it. -/
def closingSubject : Subject :=
  ⟨"x.txt", some "[/b]", none, none⟩

theorem loadConfig_closing : loadConfig closingEnvironment none = .ok closingConfig := by
  have seen : closingEnvironment.node? (Config.localPath closingEnvironment) =
      .ok (some (.file closingContent .file)) :=
    Environment.node?_root (by decide) rfl rfl
  have told : Config.candidate closingEnvironment none =
      .ok (Config.localPath closingEnvironment) := rfl
  have read : Config.ofContent (Config.localPath closingEnvironment) closingContent =
      .ok closingConfig := by
    decide +kernel
  exact loadConfig_of_load rfl ((Config.load_of_file told seen).trans read)

theorem loadDocument_closing :
    loadDocument closingEnvironment closingSubject = .ok closingDocument := by
  have node : closingEnvironment.tree.node? ["x.txt"] =
      some (.file (Text.encodeUtf8 "a\n".toList) .file) := rfl
  have read : DocumentFile.readText (Text.encodeUtf8 "a\n".toList) = some "a\n".toList := by
    decide
  have document : Document.ofText (String.ofList "a\n".toList) (Language.resolve "[/b]")
      (DocumentFile.kindOf ⟨"/", ["x.txt"]⟩) = closingDocument := by
    decide
  have located : filePath closingEnvironment "x.txt" = .ok ⟨"/", ["x.txt"]⟩ :=
    filePath_root (by decide) (by decide) rfl node rfl
  have looked := Environment.node?_root (by decide) node rfl
  have given : ("[/b]" = "") = False := by decide
  have loaded : DocumentFile.load closingEnvironment ⟨"/", ["x.txt"]⟩ (some "[/b]") none =
      .ok closingDocument := by
    simp only [DocumentFile.load, looked, read, Option.getD_none, given, if_false, document]
  exact loadDocument_of_load located loaded

/-- The text as it is opened. -/
def closingOpened : Opened :=
  ⟨closingConfig, closingDocument, closingDocument.blocks closingConfig.registry.contains⟩

/-- The whole text. -/
def closingBlock : Block :=
  ⟨0, 1, "[/b]", "a\n", 0⟩

theorem target_closing (quiet : Bool) :
    target closingEnvironment ⟨closingSubject, none, some 1, quiet⟩ =
      .ok (closingOpened, closingBlock) := by
  have opens : openSubject closingEnvironment closingSubject = .ok closingOpened :=
    openSubject_of_loads loadConfig_closing loadDocument_closing
  have selected : selectBlock closingOpened.blocks none (some 1) = .ok closingBlock := by
    decide
  rw [target_eq opens (by simp), selected]
  rfl

/-- The end of a style that was not started cannot be shown. -/
theorem announcement_closing :
    (announcement closingOpened closingBlock).lines = .error .wrongTag := by
  have parts : Markup.parts (announcement closingOpened closingBlock).text.toList =
      [.text "Run Entire File (".toList, .tag "/b".toList, .text ")".toList] := by
    decide
  have wrong : Markup.apply [] "/b".toList = .error .wrongTag := by decide
  rw [Message.lines, Message.plain_markup, Markup.plain_of_wrong parts wrong]
  rfl

/-- A host on which every command succeeds, and on which every step is recorded. -/
def closingHost : ClockedHost (Watched Unit) :=
  ⟨(statusHost 0).watched fun _ state => state, fun _ => 0⟩

/-- What a command with some arguments comes to in the directory. -/
def closingRun (arguments : List String) : Report × Pool × Watched Unit :=
  runIn closingHost closingEnvironment arguments .empty (.start ())

/-- The announcement of a block in a language that reads as the end of a style ends a run with
nothing done, while the quiet run executes the block and succeeds. -/
theorem not_only_silences_closing :
    closingRun ["run", "--index=1", "--language=[/b]", "x.txt"] =
      (.escaping (.markup .wrongTag), .empty, .start ()) ∧
    (closingRun ["run", "--quiet", "--index=1", "--language=[/b]", "x.txt"]).1 =
      ⟨[], .exit Report.success⟩ ∧
    ((closingRun ["run", "--quiet", "--index=1", "--language=[/b]", "x.txt"]).2.2.steps.countP
      fun step => step.2.isExecution) = 1 ∧
    ¬OnlySilences (closingRun ["run", "--index=1", "--language=[/b]", "x.txt"])
      (closingRun ["run", "--quiet", "--index=1", "--language=[/b]", "x.txt"]) := by
  have loud : Request.ofArguments? ["run", "--index=1", "--language=[/b]", "x.txt"] =
      some (.run ⟨closingSubject, none, some 1, false⟩) := by decide
  have silent : Request.ofArguments? ["run", "--quiet", "--index=1", "--language=[/b]", "x.txt"] =
      some (.run ⟨closingSubject, none, some 1, true⟩) := by decide
  have unshown : Message.allLines [announcement closingOpened closingBlock] =
      .error .wrongTag := by
    simp only [Message.allLines, List.mapM_cons, announcement_closing]
    rfl
  have ended : closingRun ["run", "--index=1", "--language=[/b]", "x.txt"] =
      (.escaping (.markup .wrongTag), .empty, .start ()) := by
    rw [closingRun, runIn, loud]
    exact runBlockIn_of_unshown _ _ (target_closing false) unshown _ _
  have performed : closingRun ["run", "--quiet", "--index=1", "--language=[/b]", "x.txt"] =
      (outcomeReport true 0
          (performIn closingHost.host closingConfig closingBlock .empty (.start ())).1,
        (performIn closingHost.host closingConfig closingBlock .empty (.start ())).2) := by
    rw [closingRun, runIn, silent]
    exact runBlockIn_of_quiet _ _ (target_closing true) rfl _ _
  have succeeds : (closingRun ["run", "--quiet", "--index=1", "--language=[/b]", "x.txt"]).1 =
      ⟨[], .exit Report.success⟩ := by
    rw [performed]
    decide +kernel
  refine ⟨ended, succeeds, ?_, fun silences => ?_⟩
  · rw [performed]
    decide +kernel
  · have same := silences.ending
    rw [succeeds, ended] at same
    cases same

end CommandLine
end Snippets
