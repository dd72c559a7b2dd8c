import Snippets.Proofs.Detection.Tags

/-!
# Fences with an alias

An opening fence may carry any spelling of an alias.  The tag that is read from it is the part of
the alias up to its first character that is none of a tag, so the block between the fences runs as
the language of the alias unless the alias is cut short.  The main statement says in which
language the block runs, and that the only alias which is cut short is the one of two plus signs.
-/

namespace Snippets
namespace Fence

open Text (IsAscii isBlank isWord lowerChar lowercase)

/-- A fence with an info string. -/
def withInfo (info : String) : Line :=
  ⟨String.ofList mark ++ info⟩

/-- Lines between an opening fence with an info string and a closing fence. -/
def enclose (info : String) (content : List Line) : List Line :=
  withInfo info :: (content ++ [withInfo ""])

/-- The tag that is read from a fence with a word in lower case and nothing else. -/
def tagOf (word : String) : String :=
  String.ofList (word.toList.takeWhile isWord)

/-! ## Lines between two fences -/

@[simp] theorem info?_withInfo (info : String) :
    info? (withInfo info).text = some info.toList := by
  have text : (withInfo info).text.toList = mark ++ info.toList := by
    rw [withInfo, String.toList_append, String.toList_ofList]
  exact info?_eq_some_iff.mpr text

@[simp] theorem isFence_withInfo (info : String) : isFence (withInfo info).text = true := by
  simp [isFence]

/-- Inside a block the scan takes up lines that are no fences. -/
theorem scan_inside
    (isSupported : String → Bool)
    {content : List Line}
    (noFence : ∀ line ∈ content, isFence line.text = false)
    (index anchor : Nat)
    (opening : Line)
    (reversed : List Line)
    (found : List Block)
    (rest : List Line) :
    scan isSupported index (.inside anchor opening reversed) found (content ++ rest) =
      scan isSupported (index + content.length)
        (.inside anchor opening (content.reverse ++ reversed)) found rest := by
  induction content generalizing index reversed with
  | nil => rfl
  | cons line content inductionHypothesis =>
      obtain ⟨own, others⟩ := List.forall_mem_cons.mp noFence
      rw [List.cons_append, scan]
      simp only [own, Bool.false_eq_true, if_false]
      rw [inductionHypothesis others, List.length_cons, List.reverse_cons, List.append_assoc,
        Nat.add_assoc, Nat.add_comm 1]
      rfl

theorem blocks_enclose
    (isSupported : String → Bool)
    (info : String)
    {content : List Line}
    (noFence : ∀ line ∈ content, isFence line.text = false) :
    blocks isSupported (enclose info content) =
      (block? isSupported 0 (withInfo info) content).toList := by
  rw [blocks, enclose, scan]
  simp only [isFence_withInfo, if_true]
  rw [scan_inside isSupported noFence, scan]
  simp only [isFence_withInfo, if_true, List.append_nil, List.reverse_reverse]
  rw [scan]
  cases block? isSupported 0 (withInfo info) content <;> rfl

/-! ## Tags of spellings -/

theorem takeWhile_map_lowerChar
    {characters : List Char}
    (ascii : ∀ character ∈ characters, IsAscii (lowerChar character)) :
    (characters.map lowerChar).takeWhile isWord = (characters.takeWhile isWord).map lowerChar := by
  induction characters with
  | nil => rfl
  | cons character characters inductionHypothesis =>
      obtain ⟨own, others⟩ := List.forall_mem_cons.mp ascii
      rw [List.map_cons, List.takeWhile_cons, List.takeWhile_cons, Text.isWord_lowerChar own,
        inductionHypothesis others]
      cases isWord character <;> rfl

/-- The tag at the start of a spelling is a spelling of the tag at the start of the word. -/
theorem lowercase_takeWhile
    {word spelling : String}
    (ascii : ∀ character ∈ word.toList, IsAscii character)
    (spells : lowercase spelling = word) :
    lowercase (String.ofList (spelling.toList.takeWhile isWord)) = tagOf word := by
  have characters : word.toList = spelling.toList.map lowerChar := by
    rw [← spells, lowercase, String.toList_ofList]
    refine Text.lowerFrom_of_isAscii fun other present => ascii other ?_
    rwa [← spells, lowercase, String.toList_ofList]
  have asciiForms : ∀ character ∈ spelling.toList, IsAscii (lowerChar character) := by
    intro character present
    refine ascii _ ?_
    rw [characters]
    exact List.mem_map_of_mem present
  rw [tagOf, characters, takeWhile_map_lowerChar asciiForms, lowercase, String.toList_ofList,
    Text.lowerFrom_of_isAscii_lowerChar]
  exact fun character present => asciiForms character (List.takeWhile_subset _ present)

/-- A fence with a spelling of a word that starts with a character of a tag, and with nothing or a
blank behind it, asks for the tag at the start of the word. -/
theorem openingTag?_withInfo
    {word spelling rest : String}
    (ascii : ∀ character ∈ word.toList, IsAscii character)
    (starts : tagOf word ≠ "")
    (spells : lowercase spelling = word)
    (ends : ∀ character, rest.toList.head? = some character → isBlank character = true) :
    openingTag? (withInfo (spelling ++ rest)).text = some (tagOf word) := by
  have cut : (spelling ++ rest).toList.takeWhile isWord = spelling.toList.takeWhile isWord := by
    rw [String.toList_append]
    exact takeWhile_append_of_head? fun character first => isWord_of_isBlank (ends character first)
  have tag := lowercase_takeWhile ascii spells
  have notEmpty : spelling.toList.takeWhile isWord ≠ [] := by
    intro empty
    rw [empty] at tag
    exact starts (tag.symm.trans (by decide))
  have splits := info?_eq_some_iff.mp (info?_withInfo (spelling ++ rest))
  rw [openingTag?_of_isTagged ((isTagged_iff splits).mpr ⟨cut.symm, notEmpty⟩), tag]

/-! ## Aliases -/

/-- The block of lines that stand right behind the first line of a document. -/
def blockOf (language : String) (content : List Line) : Block where
  start := 1
  stop := content.length
  language := language
  code := Document.textOf content
  anchor := 0

theorem isAscii_aliases : ∀ entry ∈ Language.aliases, ∀ character ∈ entry.1.toList,
    IsAscii character := by
  have allAscii : (Language.aliases.all fun entry =>
      entry.1.toList.all fun character => decide (IsAscii character)) = true := by
    decide
  intro entry present character inside
  exact of_decide_eq_true
    (List.all_eq_true.mp (List.all_eq_true.mp allAscii entry present) character inside)

theorem resolve_tagOf : ∀ entry ∈ Language.aliases, tagOf entry.1 ≠ "" ∧
    Language.resolve (tagOf entry.1) = if entry.1 = "c++" then "c" else entry.2 := by
  decide

/-- Lines between a fence with a spelling of an alias and a closing fence are one block in the
language of the alias, where there is a runner for that language.  The alias of two plus signs is
the exception: its fence is one of another language, as the tag ends before the first plus sign. -/
theorem blocks_enclose_spelling
    {word language : String}
    (isAlias : (word, language) ∈ Language.aliases)
    {spelling : String}
    (spells : lowercase spelling = word)
    {rest : String}
    (ends : ∀ character, rest.toList.head? = some character → isBlank character = true)
    {content : List Line}
    (notEmpty : content ≠ [])
    (noFence : ∀ line ∈ content, ¬mark <+: line.text.toList)
    {registry : Registry}
    (hasRunner : registry.contains language = true) :
    (word ≠ "c++" →
      blocks registry.contains (enclose (spelling ++ rest) content) =
        [blockOf language content]) ∧
    (word = "c++" →
      blocks registry.contains (enclose (spelling ++ rest) content) =
        if registry.contains "c" then [blockOf "c" content] else []) ∧
    ((∃ block, blocks registry.contains (enclose (spelling ++ rest) content) = [block] ∧
      block.language = language) ↔ word ≠ "c++") := by
  obtain ⟨starts, resolved⟩ := resolve_tagOf _ isAlias
  have tag := openingTag?_withInfo (isAscii_aliases _ isAlias) starts spells ends
  have plain : ∀ line ∈ content, isFence line.text = false := by
    intro line present
    rw [isFence_eq_decide, decide_eq_false (noFence line present)]
  have found : blocks registry.contains (enclose (spelling ++ rest) content) =
      if registry.contains (Language.resolve (tagOf word)) then
        [blockOf (Language.resolve (tagOf word)) content] else [] := by
    rw [blocks_enclose _ _ plain, block?, tag, Option.bind_some]
    cases supported : registry.contains (Language.resolve (tagOf word)) <;>
      simp [notEmpty, blockOf, supported]
  by_cases isCut : word = "c++"
  · subst isCut
    have other : language = "cpp" := by
      have all : ∀ entry ∈ Language.aliases, entry.1 = "c++" → entry.2 = "cpp" := by
        decide
      exact all _ isAlias rfl
    subst other
    simp only [if_true] at resolved
    rw [found, resolved]
    refine ⟨fun kept => absurd rfl kept, fun _ => rfl, ?_⟩
    cases registry.contains "c" <;> simp [blockOf]
  · simp only [isCut, if_false] at resolved
    rw [found, resolved, if_pos hasRunner]
    refine ⟨fun _ => rfl, fun cut => absurd cut isCut, fun _ => isCut, fun _ => ?_⟩
    exact ⟨blockOf language content, rfl, rfl⟩

/-- A fence with the alias of two plus signs is no fence of its language. -/
theorem not_blocks_enclose_plusPlus :
    ("c++", "cpp") ∈ Language.aliases ∧
    lowercase "c++" = "c++" ∧
    Registry.builtin.contains "cpp" = true ∧
    ¬∃ block, blocks Registry.builtin.contains (enclose ("c++" ++ "") [⟨"int x;"⟩]) = [block] ∧
      block.language = "cpp" := by
  have isAlias : ("c++", "cpp") ∈ Language.aliases := by decide
  have spells : lowercase "c++" = "c++" := by decide
  have hasRunner : Registry.builtin.contains "cpp" = true := by decide
  have other : blocks Registry.builtin.contains (enclose ("c++" ++ "") [⟨"int x;"⟩]) =
      [⟨1, 1, "c", "int x;", 0⟩] := by
    decide
  refine ⟨isAlias, spells, hasRunner, ?_⟩
  rintro ⟨block, found, language⟩
  rw [other, List.singleton_inj] at found
  rw [← found] at language
  exact absurd language (by decide)

/-- A spelling of an alias with more behind it. -/
theorem blocks_enclose_spelling_shell :
    ("bash", "shellscript") ∈ Language.aliases ∧
    lowercase "BaSh" = "bash" ∧
    Registry.builtin.contains "shellscript" = true ∧
    blocks Registry.builtin.contains (enclose ("BaSh" ++ "\ttitle=\"run\"") [⟨"echo"⟩]) =
      [blockOf "shellscript" [⟨"echo"⟩]] := by
  have isAlias : ("bash", "shellscript") ∈ Language.aliases := by decide
  have spells : lowercase "BaSh" = "bash" := by decide
  have hasRunner : Registry.builtin.contains "shellscript" = true := by decide
  have ends : ∀ character, ("\ttitle=\"run\"" : String).toList.head? = some character →
      isBlank character = true := by
    intro character first
    cases first
    decide
  have noFence : ∀ line ∈ [(⟨"echo"⟩ : Line)], ¬mark <+: line.text.toList := by
    decide
  exact ⟨isAlias, spells, hasRunner,
    (blocks_enclose_spelling isAlias spells ends (by simp) noFence hasRunner).1 (by decide)⟩

end Fence
end Snippets
