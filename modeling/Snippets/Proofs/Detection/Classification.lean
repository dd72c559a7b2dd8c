import Snippets.Proofs.Config.Lookup
import Snippets.Proofs.Detection.DocumentLines

/-!
# Files that are classified by their suffix

Two tables are looked up with the suffix of a path in lower case, one for the kind of a document
and one for its language.  They agree on what is made of fenced blocks, and every other language that
a suffix stands for has a built-in runner, which overrides may replace but never remove.  The main
statement follows a path through both tables, the reading of its file and the search for blocks.
-/

namespace Snippets

namespace Registry

/-- Overrides leave every language with a built-in runner with a runner. -/
theorem contains_withOverrides
    {language : String}
    (known : builtin.contains language = true)
    (overrides : List (String × Runner)) :
    (withOverrides overrides).contains language = true := by
  obtain ⟨runner, found⟩ := Option.isSome_iff_exists.mp known
  rw [contains, withOverrides, get?_insertAll, found]
  cases (overrides.map fun entry => (Text.lowercase entry.1, entry.2)).reverse.lookup language <;>
    rfl

end Registry

/-- The first block of a plain document in a supported language is the whole file. -/
theorem Document.exists_blocks_eq_cons
    {document : Document}
    (plain : document.kind = .plain)
    {isSupported : String → Bool}
    (supported : isSupported document.language = true) :
    ∃ block rest,
      document.blocks isSupported = block :: rest ∧
      block.isWholeFile document = true ∧
      block.language = document.language ∧
      block.code = textOf document.lines := by
  have found : document.blocks isSupported =
      Section.blocks isSupported document.language document.lines := by
    rw [blocks, plain]
  refine ⟨_, _, found.trans (Section.blocks_eq_cons supported), ?_, rfl, rfl⟩
  simp [Block.isWholeFile, Section.wholeFile, lineCount, plain]

namespace DocumentFile

/-- The languages of suffixes are not that of fenced blocks, and have built-in runners. -/
theorem contains_of_mem_languageOfSuffix :
    ∀ entry ∈ languageOfSuffix,
      entry.2 ≠ Language.markdown ∧ Registry.builtin.contains entry.2 = true := by
  decide +kernel

/-- A path is that of fenced blocks, or of a plain document in the language of a suffix or in one
that cannot be told. -/
theorem classified_cases (path : Path) :
    kindOf path = .tagged ∧ languageOf path = Language.markdown ∨
      kindOf path = .plain ∧
        (languageOf path = Language.plaintext ∨
          ∃ entry ∈ languageOfSuffix, entry.2 = languageOf path) := by
  have distinct : languageOfSuffix.Pairwise fun first second => first.1 ≠ second.1 := by decide
  by_cases tagged : Text.lowercase path.suffix ∈ taggedSuffixes
  · exact .inl (by simp [kindOf, languageOf, tagged])
  · refine .inr ⟨by simp [kindOf, tagged], ?_⟩
    cases found : languageOfSuffix.lookup (Text.lowercase path.suffix) with
    | none => exact .inl (by simp [languageOf, tagged, found])
    | some language =>
        exact .inr ⟨_, (lookup_eq_some_iff_mem distinct).mp found,
          by simp [languageOf, tagged, found]⟩

/-- The languages of paths are those of suffixes and two more. -/
theorem languageOf_mem (path : Path) :
    languageOf path ∈
      Language.markdown :: Language.plaintext :: languageOfSuffix.map Prod.snd := by
  rcases classified_cases path with ⟨-, markdown⟩ | ⟨-, untold | ⟨entry, present, same⟩⟩
  · simp [markdown]
  · simp [untold]
  · exact .tail _ (.tail _ (same ▸ List.mem_map_of_mem present))

/-- A plain document whose language can be told is in a language with a built-in runner. -/
theorem contains_languageOf
    {path : Path}
    (plain : kindOf path = .plain)
    (told : languageOf path ≠ Language.plaintext) :
    Registry.builtin.contains (languageOf path) = true := by
  rcases classified_cases path with ⟨tagged, -⟩ | ⟨-, untold | ⟨entry, present, same⟩⟩
  · cases plain.symm.trans tagged
  · exact absurd untold told
  · exact same ▸ (contains_of_mem_languageOfSuffix entry present).2

theorem kindOf_eq_tagged_iff {path : Path} :
    kindOf path = .tagged ↔ languageOf path = Language.markdown := by
  rcases classified_cases path with ⟨tagged, markdown⟩ | ⟨plain, language⟩
  · exact iff_of_true tagged markdown
  · refine iff_of_false (by simp [plain]) fun markdown => ?_
    rcases language with untold | ⟨entry, present, same⟩
    · exact absurd (markdown.symm.trans untold) (by decide)
    · exact (contains_of_mem_languageOfSuffix entry present).1 (same.trans markdown)

/-- Documents are of one kind and in one language if their suffixes are the same in lower case. -/
theorem classified_congr
    {first second : Path}
    (same : Text.lowercase first.suffix = Text.lowercase second.suffix) :
    kindOf first = kindOf second ∧ languageOf first = languageOf second := by
  simp [kindOf, languageOf, same]

/-- The kind and the language of a path say the same about fenced blocks, and depend on nothing but
the suffix, whatever its case.  Where they are those of a plain document in a language that can be
told, a file at the path is read as such a document if its bytes encode a text, and whichever
runners are overridden, the first of its blocks is the whole file in that language. -/
theorem blocks_of_classified (path : Path) :
    (kindOf path = .tagged ↔ languageOf path = Language.markdown) ∧
    (∀ other : Path, Text.lowercase other.suffix = Text.lowercase path.suffix →
      kindOf other = kindOf path ∧ languageOf other = languageOf path) ∧
    ∀ (environment : Environment) (traits : NodeTraits) (text : String)
      (overrides : List (String × Runner)),
      environment.node? path = .ok (some (.file text.toUTF8.data.toList traits)) →
      kindOf path = .plain →
      languageOf path ≠ Language.plaintext →
      ∃ document block rest,
        load environment path none none = .ok document ∧
        document = Document.ofText text (languageOf path) .plain ∧
        document.blocks (Registry.withOverrides overrides).contains = block :: rest ∧
        block.isWholeFile document = true ∧
        block.language = languageOf path ∧
        block.code = Document.textOf document.lines := by
  refine ⟨kindOf_eq_tagged_iff, fun other same => classified_congr same, ?_⟩
  intro environment traits text overrides found plain told
  obtain ⟨document, isDocument⟩ :
      ∃ document, document = Document.ofText text (languageOf path) .plain := ⟨_, rfl⟩
  have loaded : load environment path none none = .ok document := by
    have read : readText text.toUTF8.data.toList = some (Text.unifyBreaks text.toList) :=
      readText_eq_some_iff.mpr ⟨text, rfl, rfl⟩
    simp only [load, found, read, ofText_unifyBreaks, Option.getD_none, plain]
    exact congrArg _ isDocument.symm
  have language : document.language = languageOf path := by rw [isDocument, Document.ofText]
  have kind : document.kind = .plain := by rw [isDocument, Document.ofText]
  have supported := Registry.contains_withOverrides (contains_languageOf plain told) overrides
  rw [← language] at supported
  obtain ⟨block, rest, blocks, whole, same, code⟩ := Document.exists_blocks_eq_cons kind supported
  exact ⟨document, block, rest, loaded, isDocument, blocks, whole, same.trans language, code⟩

/-- A directory with a file whose suffix has a capital letter. -/
def capitalEnvironment : Environment where
  tree := ⟨[(["a.Pl"], .file [0x31, 0x0A, 0x0A, 0x0A, 0x32] .file)]⟩
  workingDirectory := []
  bindings := []

/-- The statement on classified files, for a file with two sections and another spelling of its
suffix, with an override for its language. -/
theorem blocks_of_classified_capital :
    Text.lowercase (Path.mk "" ["b", "c.d.pL"]).suffix =
      Text.lowercase (Path.mk "/" ["a.Pl"]).suffix ∧
    languageOf ⟨"", ["b", "c.d.pL"]⟩ = "perl" ∧
    capitalEnvironment.node? ⟨"/", ["a.Pl"]⟩ =
      .ok (some (.file "1\n\n\n2".toUTF8.data.toList .file)) ∧
    kindOf ⟨"/", ["a.Pl"]⟩ = .plain ∧
    languageOf ⟨"/", ["a.Pl"]⟩ ≠ Language.plaintext ∧
    ∃ document block rest,
      load capitalEnvironment ⟨"/", ["a.Pl"]⟩ none none = .ok document ∧
      document.blocks (Registry.withOverrides [("PERL", ⟨"cat \x7bfile\x7d", ".txt"⟩)]).contains =
        block :: rest ∧
      block.isWholeFile document = true ∧
      block.language = "perl" ∧
      block.code = "1\n\n\n2" := by
  have sameSuffix : Text.lowercase (Path.mk "" ["b", "c.d.pL"]).suffix =
      Text.lowercase (Path.mk "/" ["a.Pl"]).suffix := by
    decide
  have language : languageOf ⟨"/", ["a.Pl"]⟩ = "perl" := by decide
  have kind : kindOf ⟨"/", ["a.Pl"]⟩ = .plain := by decide
  have told : languageOf ⟨"/", ["a.Pl"]⟩ ≠ Language.plaintext := by decide
  have encoded : "1\n\n\n2".toUTF8.data.toList = [0x31, 0x0A, 0x0A, 0x0A, 0x32] := by
    rw [← Text.encodeUtf8_toList]
    decide
  have found : capitalEnvironment.node? ⟨"/", ["a.Pl"]⟩ =
      .ok (some (.file "1\n\n\n2".toUTF8.data.toList .file)) := by
    rw [encoded]
    exact Environment.node?_root (by decide) rfl rfl
  obtain ⟨-, spelled, opened⟩ := blocks_of_classified ⟨"/", ["a.Pl"]⟩
  obtain ⟨document, block, rest, loaded, read, blocks, whole, same, code⟩ :=
    opened capitalEnvironment .file "1\n\n\n2" _ found kind told
  refine ⟨sameSuffix, (spelled _ sameSuffix).2.trans language, found, kind, told, document, block,
    rest, loaded, blocks, whole, same.trans language, ?_⟩
  rw [code, read]
  decide

end DocumentFile
end Snippets
