import Mathlib.Data.List.Infix
import Snippets.DocumentFile
import Snippets.Proofs.Detection.Redetection
import Snippets.Proofs.Files.Environments
import Snippets.Proofs.Text.Cutting
import Snippets.Proofs.Text.Utf8

/-!
# The lines of a document

A text is cut at its breaks and nowhere else, and lines that are put together with breaks of one
kind are cut apart where they were put together.  The first main statement says both.  For its first
half the breaks of a text are counted and replaced by line feeds without looking at its lines.

The breaks of a file are unified while it is read, and its text is cut at the breaks after that.  The
second main statement says that the first step can be left out: a file is read as the document of the
very text that its bytes encode.
-/

namespace Snippets
namespace Text

/-! ## Breaks that are counted -/

/-- Whether a break ends at the first character of a text: at a line feed, or at a carriage return
that no line feed follows. -/
def endsBreak : List Char → Bool
  | [] => false
  | character :: rest =>
      decide (character = '\n' ∨ character = '\r' ∧ rest.head? ≠ some '\n')

/-- The number of breaks of a text.  A carriage return with a line feed after it is one break, which
ends at the line feed. -/
def breakCount (text : List Char) : Nat :=
  text.tails.countP endsBreak

@[simp] theorem breakCount_nil : breakCount [] = 0 := rfl

theorem breakCount_cons (character : Char) (rest : List Char) :
    breakCount (character :: rest) =
      breakCount rest + if endsBreak (character :: rest) then 1 else 0 := by
  rw [breakCount, List.tails_cons, List.countP_cons, breakCount]

/-- Characters that break no line count for nothing. -/
theorem breakCount_append
    {line : List Char}
    (unbroken : IsUnbroken line)
    (rest : List Char) :
    breakCount (line ++ rest) = breakCount rest := by
  induction line with
  | nil => rfl
  | cons character line inductionHypothesis =>
      obtain ⟨⟨noFeed, noReturn⟩, later⟩ := (isUnbroken_cons_iff character line).mp unbroken
      rw [List.cons_append, breakCount_cons, inductionHypothesis later]
      simp [endsBreak, noFeed, noReturn]

theorem breakCount_mark
    {mark rest : List Char}
    (isBreak : IsBreak mark rest) :
    breakCount (mark ++ rest) = breakCount rest + 1 := by
  cases isBreak with
  | feed => simp [breakCount_cons, endsBreak]
  | plainReturn noFeed => simp [breakCount_cons, endsBreak, noFeed]
  | returnFeed => simp [breakCount_cons, endsBreak]

/-- There is one line more than there are breaks. -/
theorem Cut.length_eq
    {text : List Char}
    {lines : List (List Char)}
    (cut : Cut text lines) :
    lines.length = breakCount text + 1 := by
  induction cut with
  | @last line unbroken =>
      have none := breakCount_append unbroken []
      rw [List.append_nil] at none
      rw [none, breakCount_nil, List.length_singleton]
  | line unbroken isBreak later inductionHypothesis =>
      rw [breakCount_append unbroken, breakCount_mark isBreak, List.length_cons,
        inductionHypothesis]

/-! ## Breaks that are replaced -/

/-- A text with a line feed in place of every carriage return and the line feed after it. -/
def replaceReturnFeeds : List Char → List Char
  | '\r' :: '\n' :: rest => '\n' :: replaceReturnFeeds rest
  | character :: rest => character :: replaceReturnFeeds rest
  | [] => []

/-- A text with a line feed in place of every carriage return. -/
def replaceReturns (text : List Char) : List Char :=
  text.map fun character => if character = '\r' then '\n' else character

/-- Breaks are unified if carriage returns with a line feed are replaced first and those that are
left after that. -/
theorem unifyFrom_eq_replaceReturns (result text : List Char) :
    unifyFrom result text = result.reverse ++ replaceReturns (replaceReturnFeeds text) := by
  induction result, text using unifyFrom.induct with
  | case1 result => simp [unifyFrom, replaceReturnFeeds, replaceReturns]
  | case2 result rest inductionHypothesis =>
      rw [unifyFrom, inductionHypothesis]
      simp [replaceReturnFeeds, replaceReturns]
  | case3 result rest noFeed inductionHypothesis =>
      rw [unifyFrom, inductionHypothesis, replaceReturnFeeds]
      · simp [replaceReturns]
      · simpa using noFeed
      · exact noFeed
  | case4 result character rest noReturnFeed noReturn inductionHypothesis =>
      rw [unifyFrom, inductionHypothesis, replaceReturnFeeds]
      · have kept : character ≠ '\r' := noReturn
        simp [replaceReturns, kept]
      · simpa using noReturnFeed
      · exact noReturnFeed
      · exact noReturn

end Text

namespace Document

theorem map_toList_lines_ofText
    (text language : String)
    (kind : DocumentKind) :
    (ofText text language kind).lines.map (fun line => line.text.toList) =
      Text.splitLines text.toList := by
  rw [ofText, List.map_map]
  have kept : (fun line => line.text.toList) ∘ (fun line => Line.mk (String.ofList line)) = id :=
    funext fun line => String.toList_ofList
  rw [kept, List.map_id]

/-- The lines of a text, of which there is at least one, hold no breaks.  With line feeds between
them they are the text with a line feed in place of every break, and there is one more of them than
there are breaks.  Texts without breaks are the lines of the text in which they stand with line
feeds between them, or carriage returns, or both. -/
theorem lines_ofText_inverse (language : String) (kind : DocumentKind) :
    (∀ text,
      (ofText text language kind).lines ≠ [] ∧
      (∀ line ∈ (ofText text language kind).lines,
        '\n' ∉ line.text.toList ∧ '\r' ∉ line.text.toList) ∧
      "\n".intercalate ((ofText text language kind).lines.map Line.text) =
        String.ofList (Text.replaceReturns (Text.replaceReturnFeeds text.toList)) ∧
      (ofText text language kind).lineCount = Text.breakCount text.toList + 1) ∧
    ∀ terminator ∈ ["\n", "\r\n", "\r"], ∀ texts : List String,
      texts ≠ [] →
      (∀ text ∈ texts, '\n' ∉ text.toList ∧ '\r' ∉ text.toList) →
      (ofText (terminator.intercalate texts) language kind).lines = texts.map Line.mk := by
  refine ⟨fun text => ⟨ofText_lines_ne_nil text language kind,
    fun line present => isUnbroken_ofText present, ?_, ?_⟩, ?_⟩
  · have unified : Text.unifyBreaks text.toList = _ := Text.unifyFrom_eq_replaceReturns [] _
    rw [List.reverse_nil, List.nil_append] at unified
    rw [← textOf_eq_intercalate, textOf, Text.joinLines, List.map_map, ← unified,
      Text.unifyBreaks_eq_intercalate, ← map_toList_lines_ofText text language kind,
      Function.comp_def]
  · have cut : Text.Cut text.toList (Text.splitLines text.toList) := Text.cut_iff.mpr rfl
    rw [lineCount, ← cut.length_eq, ← map_toList_lines_ofText text language kind, List.length_map]
  · intro terminator among texts nonempty unbroken
    have cut : Text.Cut (terminator.toList.intercalate (texts.map String.toList))
        (texts.map String.toList) :=
      Text.cut_intercalate (List.mem_map_of_mem among) (by simpa using nonempty)
        (List.forall_mem_map.mpr unbroken)
    rw [ofText, String.toList_intercalate, Text.cut_iff.mp cut, List.map_map]
    exact List.map_congr_left fun text _ => congrArg Line.mk String.ofList_toList

/-- The statement on lines, for empty lines between carriage returns. -/
theorem lines_ofText_inverse_returns :
    "\r" ∈ ["\n", "\r\n", "\r"] ∧
    ["", "a", "", ""] ≠ [] ∧
    (∀ text ∈ ["", "a", "", ""], '\n' ∉ text.toList ∧ '\r' ∉ text.toList) ∧
    (ofText "\ra\r\r" "python" .plain).lines = [⟨""⟩, ⟨"a"⟩, ⟨""⟩, ⟨""⟩] := by
  have among : "\r" ∈ ["\n", "\r\n", "\r"] := by simp
  have unbroken : ∀ text ∈ ["", "a", "", ""], '\n' ∉ text.toList ∧ '\r' ∉ text.toList := by
    decide +kernel
  have joined : "\r".intercalate ["", "a", "", ""] = "\ra\r\r" := by decide +kernel
  have lines := (lines_ofText_inverse "python" .plain).2 "\r" among ["", "a", "", ""]
    (List.cons_ne_nil _ _) unbroken
  exact ⟨among, List.cons_ne_nil _ _, unbroken, joined ▸ lines⟩

end Document

/-! ## Files that are read as documents -/

namespace DocumentFile

/-- What is read from bytes is the text that they encode, with unified breaks. -/
theorem readText_eq_some_iff
    {bytes : List UInt8}
    {read : List Char} :
    readText bytes = some read ↔
      ∃ text : String, text.toUTF8.data.toList = bytes ∧ Text.unifyBreaks text.toList = read := by
  rw [readText, Option.map_eq_some_iff]
  constructor
  · rintro ⟨characters, decoded, unified⟩
    refine ⟨String.ofList characters, ?_, ?_⟩
    · rwa [← Text.decodeUtf8_eq_toList_iff, String.toList_ofList]
    · rwa [String.toList_ofList]
  · rintro ⟨text, encoded, unified⟩
    exact ⟨text.toList, Text.decodeUtf8_eq_toList_iff.mpr encoded, unified⟩

/-- The language of the document at a path, if a language may be given for it. -/
def languageFor (path : Path) (language : Option String) : String :=
  match language.filter (· ≠ "") with
  | some tag => Language.resolve tag
  | none => languageOf path

theorem ofText_unifyBreaks
    (text language : String)
    (kind : DocumentKind) :
    Document.ofText (String.ofList (Text.unifyBreaks text.toList)) language kind =
      Document.ofText text language kind := by
  rw [Document.ofText, String.toList_ofList, Text.splitLines_unifyBreaks, Document.ofText]

theorem cut_lines_ofText
    (text language : String)
    (kind : DocumentKind)
    (lines : List (List Char)) :
    Text.Cut text.toList lines ↔
      (Document.ofText text language kind).lines.map (fun line => line.text.toList) = lines := by
  rw [Text.cut_iff, Document.map_toList_lines_ofText]

/-- A file whose bytes encode a text is read as the document of that text.  Its lines are
what stands between the line feeds, the carriage returns, and the carriage returns with a line
feed in the text, and nothing else of the text is changed or left out. -/
theorem load_of_text
    {environment : Environment}
    {path : Path}
    {bytes : List UInt8}
    {traits : NodeTraits}
    (found : environment.node? path = .ok (some (.file bytes traits)))
    {text : String}
    (encoded : text.toUTF8.data.toList = bytes)
    (language : Option String)
    (kind : Option DocumentKind) :
    ∃ document,
      load environment path language kind = .ok document ∧
      document =
        Document.ofText text (languageFor path language) (kind.getD (kindOf path)) ∧
      ∀ lines, Text.Cut text.toList lines ↔
        document.lines.map (fun line => line.text.toList) = lines := by
  have read : readText bytes = some (Text.unifyBreaks text.toList) :=
    readText_eq_some_iff.mpr ⟨text, encoded, rfl⟩
  refine ⟨_, ?_, rfl, cut_lines_ofText _ _ _⟩
  simp only [load, found, read, ofText_unifyBreaks]
  cases language with
  | none => rfl
  | some tag => by_cases empty : tag = "" <;> simp [languageFor, empty, Option.filter]

/-- A directory with a file that holds all kinds of breaks, and characters that are none. -/
def breaksEnvironment : Environment where
  tree :=
    ⟨[(["a.txt"], .file [0xEF, 0xBB, 0xBF, 0x61, 0x0D, 0x0D, 0x0A, 0x0A, 0x0D, 0x62, 0xC2, 0x85,
      0x63, 0xE2, 0x80, 0xA8, 0x64, 0x0C, 0x65] .file)]⟩
  workingDirectory := []
  bindings := []

/-- The statement on reading, for adjacent breaks of all kinds between other characters. -/
theorem load_of_text_breaks :
    ∃ document,
      load breaksEnvironment ⟨"/", ["a.txt"]⟩ none none = .ok document ∧
      document = Document.ofText "\uFEFFa\r\r\n\n\rb\u0085c\u2028d\x0Ce" "plaintext" .plain ∧
      document.lines.map Line.text = ["\uFEFFa", "", "", "", "b\u0085c\u2028d\x0Ce"] := by
  have found : breaksEnvironment.node? ⟨"/", ["a.txt"]⟩ =
      .ok (breaksEnvironment.tree.node? ["a.txt"]) :=
    Environment.node?_root (by decide) rfl rfl
  have encoded : "\uFEFFa\r\r\n\n\rb\u0085c\u2028d\x0Ce".toUTF8.data.toList =
      [0xEF, 0xBB, 0xBF, 0x61, 0x0D, 0x0D, 0x0A, 0x0A, 0x0D, 0x62, 0xC2, 0x85, 0x63, 0xE2, 0x80,
        0xA8, 0x64, 0x0C, 0x65] := by
    rw [← Text.encodeUtf8_toList]
    decide
  obtain ⟨document, loaded, same, -⟩ := load_of_text found encoded none none
  have language : languageFor ⟨"/", ["a.txt"]⟩ none = "plaintext" := by decide
  have kind : kindOf ⟨"/", ["a.txt"]⟩ = .plain := by decide
  rw [language, Option.getD_none, kind] at same
  refine ⟨document, loaded, same, ?_⟩
  rw [same]
  decide

end DocumentFile
end Snippets
