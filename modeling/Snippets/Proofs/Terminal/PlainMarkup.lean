import Mathlib.Data.List.TakeWhile
import Snippets.CommandLine.Report

/-!
# Messages without brackets

A tag needs an opening bracket, so a text without one is a single part of markup.  A message
of a command has tags only in the word before its text, which starts one style and ends it.
Hence a command that says a text without brackets always ends with its exit code.
-/

namespace Snippets
namespace Terminal

namespace Style

/-- Whether a word is its own normal form and names no attribute and no color by numbers. -/
structure IsPlainName (name : String) : Prop where
  single : words name = [name]
  lower : Text.lowercase name = name
  stripped : Text.strip name = name
  noAttribute : attribute? name = none
  noKeyword : name ≠ "on" ∧ name ≠ "not" ∧ name ≠ "link" ∧ name ≠ "none"
  noArgument : Color.argument? "color" name.toList = none ∧ Color.argument? "rgb" name.toList = none

theorem check_of_isPlainName
    {name : String}
    (isPlain : IsPlainName name) :
    Color.check name = .ok () ∨ Color.check name = .error .unknownWord := by
  unfold Color.check
  dsimp only
  split
  · exact .inl rfl
  · rw [isPlain.noArgument.1, isPlain.noArgument.2]
    exact .inr rfl

/-- Such a word is its own normal form, whether it names a color or not. -/
theorem normal_of_isPlainName
    {name : String}
    (isPlain : IsPlainName name) :
    normal name = .ok name := by
  obtain ⟨noOn, noNot, noLink, noNone⟩ := isPlain.noKeyword
  have read : ofWords {} [name] = (Color.check name).map fun _ => { color := some name } := by
    rw [ofWords.eq_def]
    simp only [isPlain.lower]
    split
    · exact absurd rfl noOn
    · exact absurd rfl noOn
    · exact absurd rfl noNot
    · exact absurd rfl noNot
    · exact absurd rfl noLink
    · exact absurd rfl noLink
    · rw [isPlain.noAttribute]
      generalize Color.check _ = checked
      cases checked <;> rfl
  have noAttributes : Terminal.attributes.filterMap (fun _ => (none : Option String)) = [] := rfl
  have shown : Style.text { color := some name } = name := by
    simp [Style.text, noAttributes, String.intercalate_singleton]
  unfold normal
  rw [isPlain.single, read]
  rcases check_of_isPlainName isPlain with checked | checked
  · simp [checked, Except.map, isPlain.stripped, noNone, shown]
  · simp [checked, Except.map, isPlain.stripped, isPlain.lower]

end Style

namespace Markup

theorem tag?_of_not_mem
    {text : List Char}
    (plain : '[' ∉ text) :
    tag? text = none := by
  unfold tag?
  split
  · simp at plain
  · rfl

/-- A text in which no tag starts is one part. -/
theorem partsFrom_of_noTag
    {fuel : Nat}
    {text : List Char}
    (enough : text.length < fuel)
    (noTag : ∀ rest, rest <:+ text → tag? rest = none) :
    partsFrom fuel text = if text = [] then [] else [.text text] := by
  induction text generalizing fuel with
  | nil => cases fuel <;> rfl
  | cons character rest inductionHypothesis =>
      obtain ⟨fuel, rfl⟩ := Nat.exists_eq_add_one_of_ne_zero (Nat.ne_zero_of_lt enough)
      have noTagWithin (count : Nat) : tag? ((character :: rest).drop count) = none :=
        noTag _ (List.drop_suffix count _)
      have later := inductionHypothesis (Nat.lt_of_succ_lt_succ enough)
        (fun within suffix => noTag within (suffix.trans (List.suffix_cons character rest)))
      simp only [partsFrom, noTagWithin, later]
      cases rest with
      | nil => rfl
      | cons next rest => rfl

theorem partsFrom_of_not_mem
    {fuel : Nat}
    {text : List Char}
    (enough : text.length < fuel)
    (plain : '[' ∉ text) :
    partsFrom fuel text = if text = [] then [] else [.text text] :=
  partsFrom_of_noTag enough fun _ suffix =>
    tag?_of_not_mem fun present => plain (suffix.subset present)

/-- Whether a text between brackets starts the style of a name, and ends it after a slash. -/
structure IsPlainTag (name : String) : Prop where
  isPlain : Style.IsPlainName name
  noParameters : '=' ∉ name.toList
  letters : name.toList ≠ []
  noSlash : name.toList.head? ≠ some '/'
  noHandler : name.toList.head? ≠ some '@'

theorem normalName_of_isPlainTag
    {name : String}
    (isPlainTag : IsPlainTag name) :
    normalName name.toList = .ok name := by
  rw [normalName, String.ofList_toList, Style.normal_of_isPlainName isPlainTag.isPlain]
  rfl

/-- The whole of a plain tag is the name of its style. -/
theorem takeWhile_of_isPlainTag
    {name : String}
    (isPlainTag : IsPlainTag name) :
    name.toList.takeWhile (· != '=') = name.toList :=
  List.takeWhile_eq_self_iff.mpr fun _ present =>
    bne_iff_ne.mpr fun same => isPlainTag.noParameters (same ▸ present)

theorem apply_of_isPlainTag
    {name : String}
    (isPlainTag : IsPlainTag name)
    (styles : List Opened) :
    apply styles name.toList = .ok (⟨name, none⟩ :: styles) := by
  unfold apply
  dsimp only
  rw [takeWhile_of_isPlainTag isPlainTag]
  split
  · rename_i rest same
    exact absurd (by rw [same]; rfl) isPlainTag.noSlash
  · rw [normalName_of_isPlainTag isPlainTag, if_neg (Nat.lt_irrefl _)]
    rfl

/-- A plain tag after a slash ends the latest style of its name. -/
theorem apply_end_of_isPlainTag
    {name : String}
    (isPlainTag : IsPlainTag name)
    (styles : List Opened) :
    apply styles ('/' :: name.toList) =
      match styles.find? (·.name == name) with
      | some opened => close opened (styles.eraseP (·.name == name))
      | none => .error .wrongTag := by
  have stripped : Text.stripList name.toList = name.toList := by
    have same := congrArg String.toList isPlainTag.isPlain.stripped
    rwa [Text.strip, String.toList_ofList] at same
  have whole : ('/' :: name.toList).takeWhile (· != '=') = '/' :: name.toList := by
    simp [takeWhile_of_isPlainTag isPlainTag]
  unfold apply
  dsimp only
  rw [whole]
  simp only [stripped, if_neg isPlainTag.letters, normalName_of_isPlainTag isPlainTag]
  rfl

theorem render_text (styles : List Opened) (characters : List Char) (rest : List Part) :
    render styles (.text characters :: rest) =
      (render styles rest).map (replaceEmoji (unescape characters) ++ ·) := by
  rw [render]
  cases render styles rest <;> rfl

theorem render_tag (styles : List Opened) (content : List Char) (rest : List Part) :
    render styles (.tag content :: rest) =
      (apply styles content).bind fun styles => render styles rest := rfl

/-- A plain tag that is started and ended around a word leaves no style open. -/
theorem render_word
    {name : String}
    (isPlainTag : IsPlainTag name)
    (word : List Char)
    (rest : List Part) :
    render []
        ([.text [], .tag name.toList, .text word, .tag ('/' :: name.toList)] ++ rest) =
      (render [] rest).map (replaceEmoji (unescape word) ++ ·) := by
  have ends : apply [⟨name, none⟩] ('/' :: name.toList) = .ok [] := by
    simp [apply_end_of_isPlainTag isPlainTag, close, Opened.canEnd, isPlainTag.noHandler]
  simp only [List.cons_append, List.nil_append, render_text, render_tag,
    apply_of_isPlainTag isPlainTag, Except.bind, ends]
  cases render [] rest <;> rfl

/-- What is shown for a text without brackets in which one plain tag is started and ended. -/
theorem render_of_isPlainTag
    {name : String}
    (isPlainTag : IsPlainTag name)
    (word text : List Char) :
    ∃ shown, render []
      [.text [], .tag name.toList, .text word, .tag ('/' :: name.toList), .text text] =
        .ok shown := by
  have rendered := render_word isPlainTag word [.text text]
  rw [render_text] at rendered
  exact ⟨_, rendered⟩

/-- A plain tag has nothing that could be unreadable. -/
theorem isReadable_of_isPlainTag
    {name : String}
    (isPlainTag : IsPlainTag name)
    (word text : List Char) :
    ([.text [], .tag name.toList, .text word, .tag ('/' :: name.toList), .text text].filterMap
      opened?).all Opened.isReadable = true := by
  have starts : opened? (.tag name.toList) = some ⟨name, none⟩ := by
    rw [opened?, apply_of_isPlainTag isPlainTag]
    rfl
  have ends : opened? (.tag ('/' :: name.toList)) = none := by
    rw [opened?, apply_end_of_isPlainTag isPlainTag]
    rfl
  have noTag (characters : List Char) : opened? (.text characters) = none := rfl
  simp [starts, ends, noTag, Opened.isReadable]

end Markup
end Terminal

namespace CommandLine

open Terminal

/-- The style of the word before a message. -/
def MessageKind.style : MessageKind → String
  | .error => "red"
  | .info => "blue"
  | .success => "green"
  | .warning => "yellow"

/-- The word before a message without its tags. -/
def MessageKind.word : MessageKind → String
  | .error => "Error:"
  | .info => "Info:"
  | .success => "✓"
  | .warning => "Warning:"

theorem isPlainTag_style (kind : MessageKind) : Markup.IsPlainTag kind.style := by
  cases kind <;> exact
    { isPlain :=
        { single := by decide +kernel
          lower := by decide +kernel
          stripped := by decide +kernel
          noAttribute := by decide +kernel
          noKeyword := by decide +kernel
          noArgument := by decide +kernel }
      noParameters := by decide +kernel
      letters := by decide +kernel
      noSlash := by decide +kernel
      noHandler := by decide +kernel }

theorem partsFrom_label
    (kind : MessageKind)
    (fuel : Nat)
    (rest : List Char) :
    Markup.partsFrom (fuel + (kind.word.toList.length + 2)) (kind.label.toList ++ rest) =
      [.text [], .tag kind.style.toList, .text kind.word.toList, .tag ('/' :: kind.style.toList)] ++
        Markup.partsFrom fuel rest := by
  cases kind <;>
    simp [MessageKind.word, MessageKind.label, MessageKind.style, Markup.partsFrom, Markup.tag?,
      Markup.startsTag, Markup.tagRest?, Markup.addText]

/-- A message without brackets in its text has one plain tag that is started and ended. -/
theorem parts_markup
    (kind : MessageKind)
    {text : String}
    (plain : '[' ∉ text.toList) :
    Markup.parts (Message.mk kind text).markup.toList =
      [.text [], .tag kind.style.toList, .text kind.word.toList,
        .tag ('/' :: kind.style.toList), .text (' ' :: text.toList)] := by
  have characters : (Message.mk kind text).markup.toList =
      kind.label.toList ++ ' ' :: text.toList := by
    simp [Message.markup]
  have longer : kind.word.toList.length + 2 < kind.label.toList.length := by
    cases kind <;> decide +kernel
  obtain ⟨fuel, enough⟩ := Nat.exists_eq_add_of_lt longer
  have steps : (kind.label.toList ++ ' ' :: text.toList).length + 1 =
      (fuel + (' ' :: text.toList).length + 2) + (kind.word.toList.length + 2) := by
    rw [List.length_append]
    omega
  have blank : '[' ∉ ' ' :: text.toList := by simpa using plain
  rw [characters, Markup.parts, steps, partsFrom_label,
    Markup.partsFrom_of_not_mem (by omega) blank]
  rfl

/-- A message without brackets in its text can be shown. -/
theorem lines_of_not_mem
    (kind : MessageKind)
    {text : String}
    (plain : '[' ∉ text.toList) :
    ∃ lines, (Message.mk kind text).lines = .ok lines := by
  have parts := parts_markup kind plain
  obtain ⟨shown, rendered⟩ := Markup.render_of_isPlainTag (isPlainTag_style kind)
    kind.word.toList (' ' :: text.toList)
  have readable := Markup.isReadable_of_isPlainTag (isPlainTag_style kind)
    kind.word.toList (' ' :: text.toList)
  rw [Message.lines, Markup.plain, parts, rendered]
  simp only [readable]
  exact ⟨_, rfl⟩

/-- A command that says a text without brackets ends with its exit code. -/
theorem saying_of_not_mem
    (kind : MessageKind)
    {text : String}
    (plain : '[' ∉ text.toList)
    (code : Int) :
    ∃ lines, Report.saying [⟨kind, text⟩] code = ⟨lines, .exit code⟩ := by
  obtain ⟨lines, shown⟩ := lines_of_not_mem kind plain
  refine ⟨[lines].flatten, ?_⟩
  simp [Report.saying, Message.allLines, shown]

end CommandLine
end Snippets
