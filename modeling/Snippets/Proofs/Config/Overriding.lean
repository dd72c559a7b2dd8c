import Snippets.Proofs.Config.Effective
import Snippets.Proofs.Detection.Classification
import Snippets.Proofs.Detection.Tags
import Snippets.Proofs.Execution.Matching
import Snippets.Proofs.Text.Stripping

/-!
# Overrides that take effect

An override is kept under its key as it is, less case and blanks, while the language of a document
is a canonical id.  The two meet unless the key is an alias.  The main statement says so: an
override whose key is no alias runs every text for whose language its key is given, and one whose
key is an alias runs no block of any document.
-/

namespace Snippets

/-! ## Languages of documents -/

namespace DocumentFile

theorem languageOf_notMem_aliases (path : Path) :
    languageOf path ∉ Language.aliases.map Prod.fst := by
  have known : ∀ language ∈ Language.markdown :: Language.plaintext ::
      languageOfSuffix.map Prod.snd, language ∉ Language.aliases.map Prod.fst := by
    decide
  exact known _ (languageOf_mem path)

/-- A document that is loaded has the language that was given for it, or that of its path. -/
theorem language_of_load
    {environment : Environment}
    {path : Path}
    {language : Option String}
    {kind : Option DocumentKind}
    {document : Document}
    (loaded : load environment path language kind = .ok document) :
    document.language = languageFor path language := by
  unfold load at loaded
  split at loaded
  · cases loaded
  · cases loaded
  · split at loaded
    · cases loaded
    · rw [← Except.ok.inj loaded]
      simp only [Document.ofText]
      cases language with
      | none => simp only [languageFor, Option.filter_none]
      | some tag => by_cases empty : tag = "" <;> simp [languageFor, empty, Option.filter]
  · cases loaded
  · cases loaded

theorem languageFor_notMem_aliases (path : Path) (language : Option String) :
    languageFor path language ∉ Language.aliases.map Prod.fst := by
  unfold languageFor
  split
  · exact Language.resolve_notMem_aliases _
  · exact languageOf_notMem_aliases path

end DocumentFile

/-- A block is never in a language that is an alias, unless its document is. -/
theorem Document.language_notMem_aliases
    {isSupported : String → Bool}
    {document : Document}
    {block : Block}
    (canonical : document.language ∉ Language.aliases.map Prod.fst)
    (present : block ∈ document.blocks isSupported) :
    block.language ∉ Language.aliases.map Prod.fst := by
  unfold blocks at present
  split at present
  · obtain ⟨opening, -, closing, -, found⟩ := Fence.exists_between?_of_mem_blocks present
    obtain ⟨tag, -, -, rfl⟩ := Fence.exists_tag_of_between? found
    exact Language.resolve_notMem_aliases tag
  · rwa [(Section.supported_of_mem_blocks present).2]

/-! ## Keys -/

namespace Config

/-- The key of an override is in lower case and not empty. -/
theorem key_of_override
    {data : Datum}
    {config : Config}
    (accepted : check data = .ok config)
    {key : String}
    {runner : Runner}
    (given : config.overrides.get? key = some runner) :
    Text.lowercase key = key ∧ key ≠ "" := by
  obtain ⟨read, -, same, noneBlank⟩ := exists_read_of_check accepted
  rw [same, get?_overridesOf, Option.map_eq_some_iff] at given
  obtain ⟨entry, found, -⟩ := given
  have named : languageOfKey entry.1 = key := by simpa using List.find?_some found
  have present : entry ∈ mappingOf read := List.mem_reverse.mp (List.mem_of_find?_eq_some found)
  have notEmpty : Text.strip entry.1 ≠ "" := fun empty =>
    Bool.eq_false_iff.mp (noneBlank entry present) (Text.strip_eq_empty_iff.mp empty)
  rw [← named, languageOfKey]
  exact ⟨Text.lowercase_lowercase _, Text.lowercase_ne_empty notEmpty⟩

/-- The runner of an override is the one in effect for its key. -/
theorem get?_registry_of_override
    {data : Datum}
    {config : Config}
    (accepted : check data = .ok config)
    {key : String}
    {runner : Runner}
    (given : config.overrides.get? key = some runner) :
    config.registry.get? key = some runner := by
  obtain ⟨read, -, same, -⟩ := exists_read_of_check accepted
  have lower : ∀ entry ∈ config.overrides.entries, Text.lowercase entry.1 = entry.1 :=
    fun entry present => lowercase_of_mem_overridesOf (same ▸ present)
  rw [registry, Registry.get?_withOverrides lower, given, Option.some_or]

end Config

/-! ## Documents -/

/-- Whether the first block of a document is its whole text in a language, and every executor with
the runners of a configuration runs it with the given one as long as it is open. -/
def Document.OpensAs
    (config : Config)
    (language : String)
    (runner : Runner)
    (document : Document) : Prop :=
  (document.blocks config.registry.contains).head? =
      some (Section.wholeFile language document.lines) ∧
  ∀ {State : Type} (host : Host State) (executor : Executor) (state : State),
    executor.runners = config.registry →
    (executor.isClosed host state).1 = false →
    executor.run host (Section.wholeFile language document.lines) state =
      executor.runWith host runner (Section.wholeFile language document.lines)
        (executor.isClosed host state).2

/-- A plain document starts with the block of its whole text in no other language than its own. -/
theorem Document.opensAs_iff
    {config : Config}
    {language : String}
    {runner : Runner}
    (effective : config.registry.get? language = some runner)
    {document : Document}
    (plain : document.kind = .plain) :
    document.OpensAs config language runner ↔ document.language = language := by
  have found : document.blocks config.registry.contains =
      Section.blocks config.registry.contains document.language document.lines := by
    rw [blocks, plain]
  constructor
  · rintro ⟨first, -⟩
    have present : Section.wholeFile language document.lines ∈
        Section.blocks config.registry.contains document.language document.lines :=
      found ▸ List.mem_of_head? first
    exact (Section.supported_of_mem_blocks present).2.symm
  · intro same
    have supported : config.registry.contains document.language = true := by
      rw [same, Registry.contains, effective, Option.isSome_some]
    refine ⟨?_, fun host executor state runners isOpen => ?_⟩
    · rw [found, Section.blocks_eq_cons supported, same, List.head?_cons]
    · exact Executor.run_eq_runWith isOpen (runners ▸ effective)

namespace Config

/-- Of the overrides of a configuration, those take effect whose keys stand for themselves, which
are those whose keys are no aliases.  For the key of any other, a document has another language,
and no block of any document is run with the override. -/
theorem opensAs_override_iff
    {data : Datum}
    {config : Config}
    (accepted : check data = .ok config)
    {key : String}
    {runner : Runner}
    (given : config.overrides.get? key = some runner) :
    (Language.resolve key = key ↔ key ∉ Language.aliases.map Prod.fst) ∧
    ((∀ text, (Document.ofText text (Language.resolve key) .plain).OpensAs config key runner) ↔
      Language.resolve key = key) ∧
    (∀ environment path kind document,
      DocumentFile.load environment path (some key) kind = .ok document →
      document.kind = .plain →
      (document.OpensAs config key runner ↔ Language.resolve key = key)) ∧
    (Language.resolve key ≠ key →
      ∀ environment path language kind document,
        DocumentFile.load environment path language kind = .ok document →
        ∀ block ∈ document.blocks config.registry.contains, block.language ≠ key) := by
  obtain ⟨lower, notEmpty⟩ := key_of_override accepted given
  have effective := get?_registry_of_override accepted given
  have fixed := Language.resolve_eq_self_iff lower
  refine ⟨fixed, ⟨fun opens => ?_, fun same text => ?_⟩, ?_, ?_⟩
  · exact (Document.opensAs_iff effective rfl).mp (opens "")
  · exact (Document.opensAs_iff effective rfl).mpr same
  · intro environment path kind document loaded plain
    have asked : document.language = Language.resolve key := by
      rw [DocumentFile.language_of_load loaded, DocumentFile.languageFor]
      simp [Option.filter, notEmpty]
    rw [Document.opensAs_iff effective plain, asked]
  · intro isAlias environment path language kind document loaded block present same
    have canonical : document.language ∉ Language.aliases.map Prod.fst := by
      rw [DocumentFile.language_of_load loaded]
      exact DocumentFile.languageFor_notMem_aliases path language
    exact isAlias (fixed.mpr (same ▸ Document.language_notMem_aliases canonical present))

/-- The data of a configuration with a runner for a language and one for an alias. -/
def aliasData : Datum :=
  .mapping [(.text "runners", .mapping
    [(.text "Haskell", .mapping
        [(.text "command", .text "runghc \x7bfile\x7d"), (.text "ext", .text ".hs")]),
     (.text "Sh ", .mapping
        [(.text "command", .text "dash \x7bfile\x7d"), (.text "ext", .text ".sh")])])]

/-- The configuration of these data. -/
def aliasConfig : Config where
  overrides := Registry.empty.insertAll
    [("haskell", ⟨"runghc \x7bfile\x7d", ".hs"⟩), ("sh", ⟨"dash \x7bfile\x7d", ".sh"⟩)]

/-- The statement on overrides, for the runner of a language. -/
theorem opensAs_override_haskell :
    check aliasData = .ok aliasConfig ∧
    aliasConfig.overrides.get? "haskell" = some ⟨"runghc \x7bfile\x7d", ".hs"⟩ ∧
    (Document.ofText "main = pure ()" (Language.resolve "haskell") .plain).OpensAs aliasConfig
      "haskell" ⟨"runghc \x7bfile\x7d", ".hs"⟩ := by
  have accepted : check aliasData = .ok aliasConfig := by decide
  have given : aliasConfig.overrides.get? "haskell" = some ⟨"runghc \x7bfile\x7d", ".hs"⟩ := by
    decide
  have statement := opensAs_override_iff accepted given
  exact ⟨accepted, given, statement.2.1.mpr (by decide) "main = pure ()"⟩

/-- An override for an alias is accepted and takes no effect: a text for which the alias is given is
run with the built-in runner. -/
theorem not_opensAs_override_alias :
    check aliasData = .ok aliasConfig ∧
    aliasConfig.overrides.get? "sh" = some ⟨"dash \x7bfile\x7d", ".sh"⟩ ∧
    (Document.ofText "ls" (Language.resolve "sh") .plain).blocks aliasConfig.registry.contains =
      [Section.wholeFile "shellscript" [⟨"ls"⟩]] ∧
    aliasConfig.registry.get? "shellscript" = Registry.builtin.get? "shellscript" ∧
    ¬(Document.ofText "ls" (Language.resolve "sh") .plain).OpensAs aliasConfig "sh"
      ⟨"dash \x7bfile\x7d", ".sh"⟩ := by
  have found : (Document.ofText "ls" (Language.resolve "sh") .plain).blocks
      aliasConfig.registry.contains = [Section.wholeFile "shellscript" [⟨"ls"⟩]] := by
    decide
  refine ⟨by decide, by decide, found, by decide, ?_⟩
  rintro ⟨first, -⟩
  rw [found, List.head?_cons, Option.some.injEq] at first
  exact absurd (congrArg Block.language first) (by decide)

end Config
end Snippets
