import Snippets.Proofs.Config.Loading

/-!
# One source decides

A configuration comes from the path that is given, or else from the one in the variable, or else
from the working directory.  The main statement says that the first of them that is there decides
alone: what a lower source holds makes no difference, a file that is asked for and is not there, or
cannot be read, is a failure, and the content of the file that is found is all that counts.  Every failure has a
message as long as the path can be told and looked at.
-/

namespace Snippets
namespace Config

variable {environment other : Environment}

/-! ## What a source depends on -/

/-- The path in the variable depends on the variable only. -/
theorem variablePath?_congr
    (sameVariable : other.valueOf? variableName = environment.valueOf? variableName) :
    variablePath? other = variablePath? environment := by
  rw [variablePath?, sameVariable, variablePath?]

/-- The home directory in a path depends on one variable only. -/
theorem expandHome_congr
    (sameHome : other.valueOf? "HOME" = environment.valueOf? "HOME")
    (path : Path) :
    other.expandHome path = environment.expandHome path := by
  have home (user : String) : other.home? user = environment.home? user := by
    rw [Environment.home?, sameHome, Environment.home?]
  unfold Environment.expandHome
  simp only [home]

/-- Of all files, what loading comes to at a path depends on the one at the path. -/
theorem outcomeAt_congr
    {path : Path}
    (sameNode : other.node? path = environment.node? path)
    (elsewhere : Option FileNode → Except LoadFailure Config) :
    outcomeAt other path elsewhere = outcomeAt environment path elsewhere := by
  unfold outcomeAt
  rw [sameNode]

/-! ## What each source comes to -/

theorem load_of_given (environment : Environment) (path : Path) :
    load environment (some path) =
      outcomeAt environment path fun found => .error (refusal path (.notFound path) found) :=
  load_of_required (.notFound path) rfl

theorem load_of_variable
    {path target : Path}
    (named : variablePath? environment = some path)
    (expanded : environment.expandHome path = .ok target) :
    load environment none =
      outcomeAt environment target fun found =>
        .error (refusal target (.variableNotFound target) found) :=
  load_of_required (.variableNotFound target) (source_of_variable named expanded)

/-- Whether something else than a regular file is found, or nothing. -/
def IsNoFile (found : Option FileNode) : Prop :=
  ∀ node, found = some node → node.isFile = false

theorem outcomeAt_of_noFile
    {path : Path}
    {found : Option FileNode}
    (seen : environment.node? path = .ok found)
    (noFile : IsNoFile found)
    (elsewhere : Option FileNode → Except LoadFailure Config) :
    outcomeAt environment path elsewhere = elsewhere found := by
  unfold outcomeAt
  rw [seen]
  match found with
  | none => rfl
  | some (.directory traits) => rfl
  | some (.link target traits) => rfl
  | some (.file content traits) => cases noFile _ rfl
  | some (.unreadable failure traits) => cases noFile _ rfl

theorem outcomeAt_of_file
    {path : Path}
    {content : List UInt8}
    {traits : NodeTraits}
    (seen : environment.node? path = .ok (some (.file content traits)))
    (elsewhere : Option FileNode → Except LoadFailure Config) :
    outcomeAt environment path elsewhere = ofContent path content := by
  unfold outcomeAt
  rw [seen]

theorem message?_refusal_isSome
    {path : Path}
    {missing : LoadFailure}
    (documented : missing.message?.isSome = true)
    (found : Option FileNode) :
    (refusal path missing found).message?.isSome = true := by
  cases found with
  | none => exact documented
  | some node => rfl

/-- A regular file where the path that counts leads decides alone. -/
theorem load_of_file
    {explicit : Option Path}
    {path : Path}
    {content : List UInt8}
    {traits : NodeTraits}
    (told : candidate environment explicit = .ok path)
    (seen : environment.node? path = .ok (some (.file content traits))) :
    load environment explicit = ofContent path content := by
  obtain ⟨elsewhere, -, same⟩ := load_of_told told
  rw [same, outcomeAt_of_file seen]

theorem load_of_unseen
    {explicit : Option Path}
    {path : Path}
    {failure : PathFailure}
    (told : candidate environment explicit = .ok path)
    (unseen : environment.node? path = .error failure) :
    load environment explicit = .error (.unknown failure) := by
  obtain ⟨elsewhere, -, same⟩ := load_of_told told
  rw [same]
  unfold outcomeAt
  rw [unseen]

/-- A file that cannot be read where the path that counts leads is a failure. -/
theorem load_of_unreadable
    {explicit : Option Path}
    {path : Path}
    {failure : ReadFailure}
    {traits : NodeTraits}
    (told : candidate environment explicit = .ok path)
    (seen : environment.node? path = .ok (some (.unreadable failure traits))) :
    load environment explicit = .error (.cannotRead path failure) := by
  obtain ⟨elsewhere, -, same⟩ := load_of_told told
  rw [same]
  unfold outcomeAt
  rw [seen]

/-- A file without a value holds the defaults. -/
theorem ofContent_of_null
    {path : Path}
    {content : List UInt8}
    {text : List Char}
    (encoded : Text.encodeUtf8 text = content)
    (small : (Text.unifyBreaks text).length ≤ greatestSize)
    (empty : Yaml.read (Text.unifyBreaks text) = .ok .null) :
    ofContent path content = .ok {} := by
  rw [ofContent, Text.readUpTo_of_encodeUtf8 _ encoded, List.take_of_length_le (by omega)]
  dsimp only
  rw [if_neg (Nat.not_lt_of_le small), empty]
  rfl

/-! ## One source -/

/-- Exactly one source decides how loading ends.  A path that is given decides by what stands
there, whatever else differs; so does the path in the variable, by the variable and the home
directory, whatever the working directory holds.  Either fails with a message if no regular file
stands there, and never gives way to another source, also not if it cannot be told or looked at.
Without both, a regular file in the working directory counts, and otherwise the defaults do.  A
regular file that cannot be read is a failure with a message.  Of one that can be read only the
content counts, and without a value it stands for the defaults. -/
theorem load_of_one_source (environment : Environment) :
    (∀ (other : Environment) (path : Path),
      other.node? path = environment.node? path →
      load other (some path) = load environment (some path)) ∧
    (∀ (other : Environment) (path : Path),
      variablePath? environment = some path →
      other.valueOf? variableName = environment.valueOf? variableName →
      other.valueOf? "HOME" = environment.valueOf? "HOME" →
      (∀ target, environment.expandHome path = .ok target →
        other.node? target = environment.node? target) →
      load other none = load environment none) ∧
    (∀ path found,
      environment.node? path = .ok found → IsNoFile found →
      load environment (some path) = .error (refusal path (.notFound path) found) ∧
        (refusal path (.notFound path) found).message?.isSome = true) ∧
    (∀ path target found,
      variablePath? environment = some path → environment.expandHome path = .ok target →
      environment.node? target = .ok found → IsNoFile found →
      load environment none = .error (refusal target (.variableNotFound target) found) ∧
        (refusal target (.variableNotFound target) found).message?.isSome = true) ∧
    (∀ explicit failure,
      (candidate environment explicit = .error failure ∨
        ∃ path, candidate environment explicit = .ok path ∧
          environment.node? path = .error failure) →
      load environment explicit = .error (.unknown failure)) ∧
    (variablePath? environment = none → ∀ found,
      environment.node? (localPath environment) = .ok found →
      (∀ content traits, found = some (.file content traits) →
        load environment none = ofContent (localPath environment) content) ∧
      (IsNoFile found → load environment none = .ok {})) ∧
    (∀ explicit path content traits,
      candidate environment explicit = .ok path →
      environment.node? path = .ok (some (.file content traits)) →
      load environment explicit = ofContent path content) ∧
    (∀ explicit path failure traits,
      candidate environment explicit = .ok path →
      environment.node? path = .ok (some (.unreadable failure traits)) →
      load environment explicit = .error (.cannotRead path failure) ∧
        (LoadFailure.cannotRead path failure).message?.isSome = true) ∧
    (∀ (path : Path) (text : String),
      (Text.unifyBreaks text.toList).length ≤ greatestSize →
      Yaml.read (Text.unifyBreaks text.toList) = .ok .null →
      ofContent path text.toUTF8.data.toList = .ok {}) := by
  refine ⟨fun other path sameNode => ?_, fun other path named sameVariable sameHome sameNode => ?_,
    fun path found seen noFile => ?_, fun path target found named expanded seen noFile => ?_,
    fun explicit failure untold => ?_, fun unnamed found seen => ⟨?_, fun noFile => ?_⟩,
    fun explicit path content traits => load_of_file,
    fun explicit path failure traits told seen => ⟨load_of_unreadable told seen, rfl⟩,
    fun path text => ?_⟩
  · rw [load_of_given, load_of_given, outcomeAt_congr sameNode]
  · have namedToo : variablePath? other = some path :=
      (variablePath?_congr sameVariable).trans named
    have sameTarget := expandHome_congr sameHome path
    cases expanded : environment.expandHome path with
    | error failure =>
        have untold : candidate environment none = .error failure := by
          rw [candidate_of_variable named, expanded]
        have untoldToo : candidate other none = .error failure := by
          rw [candidate_of_variable namedToo, sameTarget, expanded]
        rw [load_of_untold untold, load_of_untold untoldToo]
    | ok target =>
        rw [load_of_variable named expanded, load_of_variable namedToo (sameTarget.trans expanded),
          outcomeAt_congr (sameNode target expanded)]
  · rw [load_of_given, outcomeAt_of_noFile seen noFile]
    exact ⟨rfl, message?_refusal_isSome rfl found⟩
  · rw [load_of_variable named expanded, outcomeAt_of_noFile seen noFile]
    exact ⟨rfl, message?_refusal_isSome rfl found⟩
  · rcases untold with untold | ⟨path, told, unseen⟩
    · exact load_of_untold untold
    · exact load_of_unseen told unseen
  · rintro content traits rfl
    rw [load_of_local unnamed, outcomeAt_of_file seen]
  · rw [load_of_local unnamed, outcomeAt_of_noFile seen noFile]
  · exact ofContent_of_null (Text.encodeUtf8_toList text)

/-! ## Sources that are there together -/

/-- A directory with a file that hides tables, another that encodes no text where the working
directory is looked at, and a variable with the home directory of a user who is not known. -/
def crowdedEnvironment : Environment where
  tree :=
    ⟨[(["c.yaml"], .file (Text.encodeUtf8 "show_affordance: false".toList) .file),
      ([".blockrun.yaml"], .file [0xFF] .file)]⟩
  workingDirectory := []
  bindings := [(variableName, "~stranger/c.yaml")]

/-- The statement on sources, for that directory: a file that is given is read as it is where
there is no other source, and one that is not there is a failure. -/
theorem load_of_one_source_crowded :
    crowdedEnvironment.node? ⟨"/", ["c.yaml"]⟩ = scriptEnvironment.node? ⟨"/", ["c.yaml"]⟩ ∧
    load crowdedEnvironment (some ⟨"/", ["c.yaml"]⟩) =
      load scriptEnvironment (some ⟨"/", ["c.yaml"]⟩) ∧
    load crowdedEnvironment (some ⟨"/", ["none.yaml"]⟩) =
      .error (.notFound ⟨"/", ["none.yaml"]⟩) ∧
    load crowdedEnvironment none = .error (.unknown .unknownUser) := by
  have given : crowdedEnvironment.node? ⟨"/", ["c.yaml"]⟩ =
      .ok (some (.file (Text.encodeUtf8 "show_affordance: false".toList) .file)) :=
    Environment.node?_root (by decide) rfl rfl
  have nothing : crowdedEnvironment.node? ⟨"/", ["none.yaml"]⟩ = .ok none :=
    Environment.node?_root (by decide) rfl rfl
  have sameNode := given.trans node?_scriptEnvironment.symm
  have untold : candidate crowdedEnvironment none = .error .unknownUser := rfl
  obtain ⟨alone, -, -, -, -, -, -⟩ := load_of_one_source scriptEnvironment
  obtain ⟨-, -, missing, -, never, -, -⟩ := load_of_one_source crowdedEnvironment
  exact ⟨sameNode, alone crowdedEnvironment _ sameNode, (missing _ none nothing nofun).1,
    never none .unknownUser (.inl untold)⟩

/-- A path whose only name is longer than a file system allows. -/
def longPath : Path :=
  ⟨"", [String.ofList (List.replicate 300 'a')]⟩

theorem node?_long : scriptEnvironment.node? longPath = .error .tooLong := by
  have alone (name : String) : Path.text ⟨"", [name]⟩ = name := by
    simp [Path.text]
  -- The text is not read back from its bytes, which would take long.
  have text : longPath.text = String.ofList (List.replicate 300 'a') := alone _
  have parts : Path.parts longPath.text = [String.ofList (List.replicate 300 'a')] := by
    rw [text, Path.parts, String.toList_ofList]
    decide +kernel
  have valid : FileTree.textFailure? longPath.text = none := by
    rw [text, FileTree.textFailure?, String.toList_ofList]
    decide +kernel
  have start : FileTree.start [] longPath.text = [] := by
    rw [text, FileTree.start, String.toList_ofList]
    rfl
  have isName : ¬(String.ofList (List.replicate 300 'a') = "" ∨
      String.ofList (List.replicate 300 'a') = ".") := by decide +kernel
  have notAbove : String.ofList (List.replicate 300 'a') ≠ ".." := by decide +kernel
  have long : FileTree.longestName < (String.ofList (List.replicate 300 'a')).utf8ByteSize := by
    decide +kernel
  have root : scriptEnvironment.tree.node? [] = some (.directory .directory) := rfl
  have here : scriptEnvironment.workingDirectory = [] := rfl
  have located : scriptEnvironment.tree.locate [] longPath.text = .error .tooLong := by
    rw [FileTree.locate, valid, start, parts]
    dsimp only
    rw [FileTree.follow, FileTree.followLinks, root]
    simp only [if_neg isName, if_neg notAbove, if_pos long]
  rw [Environment.node?, here, FileTree.lookup, located]
  rfl

/-- A file that is given and is not there need not fail with a message. -/
theorem not_load_refused_long :
    (∀ node, scriptEnvironment.node? longPath ≠ .ok (some node)) ∧
    ¬∃ failure, load scriptEnvironment (some longPath) = .error failure ∧
      failure.message?.isSome = true := by
  refine ⟨by simp [node?_long], ?_⟩
  have told : candidate scriptEnvironment (some longPath) = .ok longPath := rfl
  rw [load_of_unseen told node?_long]
  rintro ⟨failure, ⟨⟩, documented⟩
  cases documented

end Config
end Snippets
