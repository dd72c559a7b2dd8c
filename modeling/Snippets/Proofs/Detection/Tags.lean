import Snippets.Proofs.Detection.FencePairs
import Snippets.Proofs.Lists
import Snippets.Proofs.Text.LowerCase

/-!
# Tags

The tag of an opening fence is the word directly behind its backquotes, in lower case.  The word is
as long as it can be, and what stands behind it has no effect.  A bare fence has nothing but blanks
behind its backquotes and asks for a shell script.  No fence is of both forms, as no blank is a word
character.  The first main statement says that the tag is read off these two forms, that texts of
neither form have none, and that blanks at the end of a text, line breaks included, change nothing.

A tag is resolved to the language that it is an alias of, or to itself in lower case.  The languages
of aliases are no aliases themselves, are in lower case and have built-in runners.  The second main
statement says what follows: an id is resolved to itself, the case of a tag has no effect, and
aliases are the tags that are resolved to something else than their lower-case form.
-/

namespace Snippets
namespace Fence

open Text (isBlank isWord lowercase)

/-! ## Words and blanks -/

/-- No blank character may occur in a tag. -/
theorem isWord_of_isBlank
    {character : Char}
    (blank : isBlank character = true) :
    isWord character = false := by
  have apart : ∀ range ∈ Text.wordRanges, 32 < range.1 ∧
      (range.2 < 0x85 ∨ 0x85 < range.1) ∧ (range.2 < 0xA0 ∨ 0xA0 < range.1) ∧
      (range.2 < 0x1680 ∨ 0x1680 < range.1) ∧ (range.2 < 0x2000 ∨ 0x200A < range.1) ∧
      (range.2 < 0x2028 ∨ 0x2029 < range.1) ∧ (range.2 < 0x202F ∨ 0x202F < range.1) ∧
      (range.2 < 0x205F ∨ 0x205F < range.1) ∧ (range.2 < 0x3000 ∨ 0x3000 < range.1) := by
    decide +kernel
  refine Bool.eq_false_iff.mpr fun word => ?_
  obtain ⟨range, present, least, greatest⟩ := Text.exists_mem_of_inRanges word
  have away := apart range present
  simp only [isBlank, Bool.or_eq_true, Bool.and_eq_true, decide_eq_true_eq] at blank
  omega

theorem takeWhile_append_blanks
    (front : List Char)
    {blanks : List Char}
    (areBlank : ∀ character ∈ blanks, isBlank character = true) :
    (front ++ blanks).takeWhile isWord = front.takeWhile isWord :=
  takeWhile_append_of_head? fun character first =>
    isWord_of_isBlank (areBlank character (List.mem_of_head? first))

/-! ## Behind the backquotes -/

theorem info?_eq_some_iff {text : String} {info : List Char} :
    info? text = some info ↔ text.toList = mark ++ info := by
  unfold info?
  constructor
  · intro found
    split at found
    · rename_i begins
      obtain ⟨rest, same⟩ := List.isPrefixOf_iff_prefix.mp begins
      rw [← same, List.drop_left, Option.some.injEq] at found
      rw [← same, found]
    · cases found
  · intro splits
    simp [splits]

theorem info?_eq_none_iff {text : String} :
    info? text = none ↔ ¬mark <+: text.toList := by
  simp [info?]

/-- A text that is no fence is none with blanks behind it. -/
theorem info?_append_blanks
    (text : String)
    {blanks : List Char}
    (areBlank : ∀ character ∈ blanks, isBlank character = true) :
    info? (text ++ String.ofList blanks) = (info? text).map (· ++ blanks) := by
  cases found : info? text with
  | some info =>
      rw [info?_eq_some_iff] at found
      rw [Option.map_some, info?_eq_some_iff, String.toList_append, String.toList_ofList, found,
        List.append_assoc]
  | none =>
      rw [info?_eq_none_iff] at found
      rw [Option.map_none, info?_eq_none_iff, String.toList_append, String.toList_ofList]
      intro begins
      rcases List.prefix_or_prefix_of_prefix begins (List.prefix_append text.toList blanks) with
        within | ⟨after, same⟩
      · exact found within
      · -- The backquotes that the text lacks would have to be blanks.
        rw [← same, List.prefix_append_right_inj] at begins
        cases after with
        | nil => exact found ⟨[], by simpa using same.symm⟩
        | cons character after =>
            have blank := areBlank character (begins.subset List.mem_cons_self)
            have among : character ∈ mark := by simp [← same]
            obtain rfl : character = '\x60' := by simpa [mark] using among
            exact absurd blank (by decide)

/-! ## The two forms of opening fences -/

/-- Whether a text is a fence with a word directly behind its backquotes, and with no longer
one. -/
structure IsTagged (text : String) (word : List Char) : Prop where
  /-- The text starts with the backquotes and the word. -/
  begins : mark ++ word <+: text.toList
  /-- The word is not empty. -/
  nonempty : word ≠ []
  /-- The word has word characters only. -/
  areWords : ∀ character ∈ word, isWord character = true
  /-- No other run of word characters behind the backquotes goes beyond the word. -/
  longest : ∀ other, mark ++ other <+: text.toList →
    (∀ character ∈ other, isWord character = true) → other <+: word

/-- Whether a text is a fence with nothing but blanks behind its backquotes. -/
def IsBare (text : String) : Prop :=
  ∃ blanks, text.toList = mark ++ blanks ∧ ∀ character ∈ blanks, isBlank character = true

theorem isTagged_iff
    {text : String}
    {info word : List Char}
    (splits : text.toList = mark ++ info) :
    IsTagged text word ↔ word = info.takeWhile isWord ∧ word ≠ [] := by
  constructor
  · intro tagged
    obtain ⟨begins, nonempty, areWords, longest⟩ := tagged
    simp only [splits, List.prefix_append_right_inj] at begins longest
    have within := prefix_takeWhile_iff.mpr ⟨begins, areWords⟩
    have beyond := longest _ (List.takeWhile_prefix _) fun _ => List.mem_takeWhile_imp
    exact ⟨within.eq_of_length_le beyond.length_le, nonempty⟩
  · rintro ⟨rfl, nonempty⟩
    obtain ⟨begins, areWords⟩ := prefix_takeWhile_iff.mp (List.prefix_refl (info.takeWhile isWord))
    refine ⟨?_, nonempty, areWords, fun other starts otherWords => ?_⟩
    · rwa [splits, List.prefix_append_right_inj]
    · rw [splits, List.prefix_append_right_inj] at starts
      exact prefix_takeWhile_iff.mpr ⟨starts, otherWords⟩

theorem isBare_iff
    {text : String}
    {info : List Char}
    (splits : text.toList = mark ++ info) :
    IsBare text ↔ ∀ character ∈ info, isBlank character = true := by
  simp [IsBare, splits]

/-- A fence without a word starts with another character, or with none. -/
theorem not_isTagged_of_head?
    {text : String}
    {info : List Char}
    (splits : text.toList = mark ++ info)
    (noWord : ∀ character, info.head? = some character → isWord character = false)
    (word : List Char) :
    ¬IsTagged text word := by
  intro tagged
  obtain ⟨same, nonempty⟩ := (isTagged_iff splits).mp tagged
  have ends : ([] ++ info).takeWhile isWord = [] := takeWhile_append_of_head? noWord
  exact nonempty (same.trans ends)

theorem IsTagged.not_isBare
    {text : String}
    {word : List Char}
    (tagged : IsTagged text word) :
    ¬IsBare text := by
  rintro ⟨blanks, splits, areBlank⟩
  refine not_isTagged_of_head? splits (fun character first => ?_) word tagged
  exact isWord_of_isBlank (areBlank character (List.mem_of_head? first))

/-- A fence with a word has its lower-case form as its tag. -/
theorem openingTag?_of_isTagged
    {text : String}
    {word : List Char}
    (tagged : IsTagged text word) :
    openingTag? text = some (lowercase (String.ofList word)) := by
  obtain ⟨rest, begins⟩ := tagged.begins
  have splits : text.toList = mark ++ (word ++ rest) := by rw [← begins, List.append_assoc]
  obtain ⟨same, nonempty⟩ := (isTagged_iff splits).mp tagged
  rw [openingTag?, info?_eq_some_iff.mpr splits, Option.bind_some]
  simp only [← same, ne_eq, nonempty, not_false_eq_true, if_true]

/-- A bare fence asks for a shell script. -/
theorem openingTag?_of_isBare {text : String} (bare : IsBare text) :
    openingTag? text = some Language.shellscript := by
  obtain ⟨blanks, splits, areBlank⟩ := bare
  have noWord : blanks.takeWhile isWord = [] := takeWhile_append_blanks [] areBlank
  rw [openingTag?, info?_eq_some_iff.mpr splits, Option.bind_some]
  simp only [noWord, ne_eq, not_true_eq_false, if_false, List.all_eq_true.mpr areBlank, if_true]

/-- Only a fence with a word and a bare fence have a tag. -/
theorem openingTag?_eq_none_iff {text : String} :
    openingTag? text = none ↔ (∀ word, ¬IsTagged text word) ∧ ¬IsBare text := by
  constructor
  · intro none
    refine ⟨fun word tagged => ?_, fun bare => ?_⟩
    · cases none.symm.trans (openingTag?_of_isTagged tagged)
    · cases none.symm.trans (openingTag?_of_isBare bare)
  · rintro ⟨notTagged, notBare⟩
    cases found : info? text with
    | none => rw [openingTag?, found, Option.bind_none]
    | some info =>
        have splits := info?_eq_some_iff.mp found
        have noWord : info.takeWhile isWord = [] := by
          by_contra nonempty
          exact notTagged _ ((isTagged_iff splits).mpr ⟨rfl, nonempty⟩)
        rw [isBare_iff splits, ← List.all_eq_true] at notBare
        rw [openingTag?, found, Option.bind_some]
        simp only [noWord, ne_eq, not_true_eq_false, if_false, notBare, Bool.false_eq_true]

/-- A tag is the lower-case form of a word, or that of a bare fence. -/
theorem openingTag?_eq_some_iff {text tag : String} :
    openingTag? text = some tag ↔
      (∃ word, IsTagged text word ∧ tag = lowercase (String.ofList word)) ∨
        IsBare text ∧ tag = Language.shellscript := by
  constructor
  · intro opens
    have notNone : ¬openingTag? text = none := by simp [opens]
    rw [openingTag?_eq_none_iff, not_and_or, not_forall_not, not_not] at notNone
    rcases notNone with ⟨word, tagged⟩ | bare
    · exact .inl ⟨word, tagged, Option.some.inj (opens.symm.trans (openingTag?_of_isTagged tagged))⟩
    · exact .inr ⟨bare, Option.some.inj (opens.symm.trans (openingTag?_of_isBare bare))⟩
  · rintro (⟨word, tagged, rfl⟩ | ⟨bare, rfl⟩)
    · exact openingTag?_of_isTagged tagged
    · exact openingTag?_of_isBare bare

theorem prefix_of_openingTag?
    {text : String}
    (opens : openingTag? text ≠ none) :
    mark <+: text.toList := by
  by_contra noFence
  exact opens (by rw [openingTag?, info?_eq_none_iff.mpr noFence, Option.bind_none])

/-- Blanks at the end of a text do not change its tag. -/
theorem openingTag?_append_blanks
    (text : String)
    {blanks : List Char}
    (areBlank : ∀ character ∈ blanks, isBlank character = true) :
    openingTag? (text ++ String.ofList blanks) = openingTag? text := by
  rw [openingTag?, openingTag?, info?_append_blanks text areBlank, Option.bind_map]
  refine congrArg _ (funext fun info => ?_)
  simp only [Function.comp_apply, takeWhile_append_blanks info areBlank, List.all_append,
    List.all_eq_true.mpr areBlank, Bool.and_true]

/-- A text has a tag in two cases, which exclude each other: it is a fence with a word, which is the
tag once it is in lower case, whatever stands behind it, or a bare fence, whose tag is that of shell
scripts.  So only fences have a tag, and a fence has none if another character than those of words
stands behind its backquotes and it is not bare.  Blanks at the end of a text have no effect. -/
theorem openingTag?_grammar (text : String) :
    (∀ word, IsTagged text word →
      ¬IsBare text ∧ openingTag? text = some (lowercase (String.ofList word))) ∧
    (IsBare text → openingTag? text = some Language.shellscript) ∧
    (openingTag? text = none ↔ (∀ word, ¬IsTagged text word) ∧ ¬IsBare text) ∧
    (openingTag? text ≠ none → isFence text = true) ∧
    (∀ character rest, text.toList = mark ++ character :: rest → isWord character = false →
      (∃ other ∈ character :: rest, isBlank other = false) → openingTag? text = none) ∧
    ∀ blanks, (∀ character ∈ blanks, isBlank character = true) →
      openingTag? (text ++ String.ofList blanks) = openingTag? text := by
  refine ⟨fun word tagged => ⟨tagged.not_isBare, openingTag?_of_isTagged tagged⟩,
    openingTag?_of_isBare, openingTag?_eq_none_iff, fun opens => ?_,
    fun character rest splits noWord notBlank => ?_,
    fun blanks => openingTag?_append_blanks text⟩
  · rw [isFence_eq_decide, decide_eq_true (prefix_of_openingTag? opens)]
  · refine openingTag?_eq_none_iff.mpr ⟨not_isTagged_of_head? splits ?_, fun bare => ?_⟩
    · rintro other first
      rwa [← Option.some.inj first]
    · obtain ⟨other, present, differs⟩ := notBlank
      have blank := (isBare_iff splits).mp bare other present
      exact Bool.false_ne_true (differs.symm.trans blank)

/-- The statement on tags, for a word whose last letter would have another lower-case form if the
rest of the text counted, for blanks of several kinds, and for a fourth backquote. -/
theorem openingTag?_grammar_sigma :
    IsTagged "\x60\x60\x60ΑΣ\u0301Α" ['Α', 'Σ'] ∧
    openingTag? "\x60\x60\x60ΑΣ\u0301Α" = some "ας" ∧
    IsBare "\x60\x60\x60\x1C\u2028\n" ∧
    openingTag? "\x60\x60\x60\x1C\u2028\n" = some "shellscript" ∧
    openingTag? "\x60\x60\x60\x60py" = none := by
  have splits : "\x60\x60\x60ΑΣ\u0301Α".toList = mark ++ ['Α', 'Σ', '\u0301', 'Α'] := by decide
  have tagged : IsTagged "\x60\x60\x60ΑΣ\u0301Α" ['Α', 'Σ'] :=
    (isTagged_iff splits).mpr (by decide)
  have lower : lowercase (String.ofList ['Α', 'Σ']) = "ας" := by decide
  have bare : IsBare "\x60\x60\x60\x1C\u2028\n" :=
    ⟨['\x1C', '\u2028', '\n'], by decide, List.all_eq_true.mp (by decide)⟩
  refine ⟨tagged, ?_, bare, (openingTag?_grammar _).2.1 bare, ?_⟩
  · rw [((openingTag?_grammar _).1 _ tagged).2, lower]
  · exact (openingTag?_grammar _).2.2.2.2.1 '\x60' ['p', 'y'] (by decide) (by decide)
      ⟨'\x60', List.mem_cons_self, by decide⟩

end Fence

namespace Language

open Text (lowercase)

/-! ## The table of aliases -/

/-- No alias stands for two languages. -/
theorem distinct_aliases : aliases.Pairwise fun first second => first.1 ≠ second.1 := by
  decide

/-- The language of an alias is a canonical id of a built-in runner. -/
theorem target_of_mem_aliases :
    ∀ entry ∈ aliases, lowercase entry.2 = entry.2 ∧ entry.2 ∉ aliases.map Prod.fst ∧
      Registry.builtin.contains entry.2 = true := by
  decide +kernel

theorem aliasTarget?_eq_none_iff {tag : String} :
    aliasTarget? tag = none ↔ tag ∉ aliases.map Prod.fst := by
  rw [aliasTarget?, List.lookup_eq_none_iff, List.mem_map]
  constructor
  · rintro differs ⟨entry, present, same⟩
    simpa [same] using differs entry present
  · intro notAlias entry present
    exact bne_iff_ne.mpr fun same => notAlias ⟨entry, present, same.symm⟩

/-! ## Resolved tags -/

/-- A tag is an alias and stands for its language, or is none and stands for itself in lower
case. -/
theorem resolve_cases (tag : String) :
    (isAlias tag = true ∧ (lowercase tag, resolve tag) ∈ aliases) ∨
      (isAlias tag = false ∧ lowercase tag ∉ aliases.map Prod.fst ∧
        resolve tag = lowercase tag) := by
  unfold isAlias resolve
  dsimp only
  cases found : aliasTarget? (lowercase tag) with
  | none => exact .inr ⟨rfl, aliasTarget?_eq_none_iff.mp found, rfl⟩
  | some language => exact .inl ⟨rfl, (lookup_eq_some_iff_mem distinct_aliases).mp found⟩

/-- Every spelling of an alias stands for its language. -/
theorem resolve_of_mem_aliases
    {tag language : String}
    (listed : (lowercase tag, language) ∈ aliases) :
    isAlias tag = true ∧ resolve tag = language := by
  have found : aliasTarget? (lowercase tag) = some language :=
    (lookup_eq_some_iff_mem distinct_aliases).mpr listed
  simp [isAlias, resolve, found]

/-- No tag stands for an alias. -/
theorem resolve_notMem_aliases (tag : String) : resolve tag ∉ aliases.map Prod.fst := by
  rcases resolve_cases tag with ⟨-, present⟩ | ⟨-, notAlias, same⟩
  · exact (target_of_mem_aliases _ present).2.1
  · rwa [same]

/-- Every tag stands for a text in lower case. -/
@[simp] theorem lowercase_resolve (tag : String) : lowercase (resolve tag) = resolve tag := by
  rcases resolve_cases tag with ⟨-, present⟩ | ⟨-, -, same⟩
  · exact (target_of_mem_aliases _ present).1
  · rw [same, Text.lowercase_lowercase]

/-- A tag in lower case stands for itself if it is no alias. -/
theorem resolve_eq_self_iff
    {tag : String}
    (lower : lowercase tag = tag) :
    resolve tag = tag ↔ tag ∉ aliases.map Prod.fst := by
  constructor
  · intro same
    exact same ▸ resolve_notMem_aliases tag
  · intro notAlias
    rw [resolve, lower, aliasTarget?_eq_none_iff.mpr notAlias, Option.getD_none]

/-- What a tag stands for, stands for itself. -/
@[simp] theorem resolve_resolve (tag : String) : resolve (resolve tag) = resolve tag :=
  (resolve_eq_self_iff (lowercase_resolve tag)).mpr (resolve_notMem_aliases tag)

theorem isAlias_eq_false_iff {tag : String} :
    isAlias tag = false ↔ lowercase tag ∉ aliases.map Prod.fst := by
  rw [isAlias, Option.isSome_eq_false_iff, Option.isNone_iff_eq_none, aliasTarget?_eq_none_iff]

/-- What a tag stands for is no alias. -/
@[simp] theorem isAlias_resolve (tag : String) : isAlias (resolve tag) = false := by
  rw [isAlias_eq_false_iff, lowercase_resolve]
  exact resolve_notMem_aliases tag

/-- The tags that are no aliases are those that stand for themselves, but for their case. -/
theorem resolve_eq_lowercase_iff {tag : String} :
    resolve tag = lowercase tag ↔ isAlias tag = false := by
  constructor
  · intro same
    rw [isAlias_eq_false_iff, ← same]
    exact resolve_notMem_aliases tag
  · intro notAlias
    rcases resolve_cases tag with ⟨aliased, -⟩ | ⟨-, -, same⟩
    · cases notAlias.symm.trans aliased
    · exact same

/-- Tags are told apart by their lower-case forms at most. -/
theorem resolve_congr
    {first second : String}
    (same : lowercase first = lowercase second) :
    resolve first = resolve second ∧ isAlias first = isAlias second := by
  simp [resolve, isAlias, same]

/-- An alias stands for a language with a built-in runner. -/
theorem contains_resolve
    {tag : String}
    (aliased : isAlias tag = true) :
    Registry.builtin.contains (resolve tag) = true := by
  rcases resolve_cases tag with ⟨-, present⟩ | ⟨notAlias, -⟩
  · exact (target_of_mem_aliases _ present).2.2
  · cases notAlias.symm.trans aliased

/-- Resolving is a projection that sees no case.  An alias is a tag that is resolved to something
else than its lower-case form, which is a language with a built-in runner and the one that the table
has for it.  Left alone are the texts in lower case that are no aliases. -/
theorem resolve_projects (tag : String) :
    resolve (resolve tag) = resolve tag ∧
    isAlias (resolve tag) = false ∧
    (∀ other, lowercase other = lowercase tag →
      resolve other = resolve tag ∧ isAlias other = isAlias tag) ∧
    (isAlias tag = true ↔ resolve tag ≠ lowercase tag) ∧
    (isAlias tag = true → Registry.builtin.contains (resolve tag) = true) ∧
    (∀ language, (lowercase tag, language) ∈ aliases →
      isAlias tag = true ∧ resolve tag = language) ∧
    (resolve tag = tag ↔ lowercase tag = tag ∧ isAlias tag = false) := by
  refine ⟨resolve_resolve tag, isAlias_resolve tag, fun _ => resolve_congr, ?_, contains_resolve,
    fun _ => resolve_of_mem_aliases, fun same => ?_, fun ⟨lower, notAlias⟩ => ?_⟩
  · rw [ne_eq, resolve_eq_lowercase_iff, Bool.not_eq_false]
  · exact ⟨same ▸ lowercase_resolve tag, same ▸ isAlias_resolve tag⟩
  · rw [resolve_eq_lowercase_iff.mpr notAlias, lower]

/-- The statement on resolving, for two spellings of an alias. -/
theorem resolve_projects_spellings :
    lowercase "ZsH" = lowercase "zSh" ∧
    resolve "ZsH" = resolve "zSh" ∧
    isAlias "zSh" = true ∧
    resolve "zSh" ≠ lowercase "zSh" ∧
    Registry.builtin.contains (resolve "zSh") = true ∧
    resolve (resolve "zSh") = "shellscript" := by
  have same : lowercase "ZsH" = lowercase "zSh" := by decide
  have aliased : isAlias "zSh" = true := by decide
  have target : resolve "zSh" = "shellscript" := by decide
  obtain ⟨again, -, spelled, differs, known, -⟩ := resolve_projects "zSh"
  exact ⟨same, (spelled _ same).1, aliased, differs.mp aliased, known aliased, again.trans target⟩

end Language
end Snippets
