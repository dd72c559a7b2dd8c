import Mathlib.Data.List.Infix
import Snippets.Proofs.Terminal.PlainMarkup

/-!
# Literal texts

A terminal takes every text as markup.  A text is shown as it is if no tag starts in it, if no
backslash in it stands before a bracket, and if it names no emoji.  For a text without colons, these
conditions are also necessary.  A message shows its word, and after it what its text shows.
-/

namespace Snippets
namespace Terminal

/-! ## Emoji -/

theorem replaceEmojiFrom_cons
    {character : Char}
    (differs : character ≠ ':')
    (fuel : Nat)
    (rest : List Char) :
    replaceEmojiFrom (fuel + 1) (character :: rest) =
      character :: replaceEmojiFrom fuel rest := by
  rw [replaceEmojiFrom]
  exact fun same => differs same

theorem replaceEmoji_cons
    {character : Char}
    (differs : character ≠ ':')
    (rest : List Char) :
    replaceEmoji (character :: rest) = character :: replaceEmoji rest :=
  replaceEmojiFrom_cons differs _ rest

/-- A text without colons names no emoji. -/
theorem replaceEmoji_of_not_mem
    {text : List Char}
    (plain : ':' ∉ text) :
    replaceEmoji text = text := by
  induction text with
  | nil => rfl
  | cons character rest inductionHypothesis =>
      obtain ⟨differs, later⟩ := List.ne_and_not_mem_of_not_mem_cons plain
      rw [replaceEmoji_cons differs.symm, inductionHypothesis later]

namespace Markup

/-! ## Backslashes before brackets -/

theorem unescape_cons
    {character : Char}
    (differs : character ≠ '\\')
    (rest : List Char) :
    unescape (character :: rest) = character :: unescape rest := by
  simp [unescape, differs]

theorem unescape_of_not_mem
    {text : List Char}
    (plain : '[' ∉ text) :
    unescape text = text := by
  fun_induction unescape text with
  | case1 rest inductionHypothesis => simp at plain
  | case2 character rest _ inductionHypothesis =>
      rw [inductionHypothesis fun present => plain (List.mem_cons_of_mem _ present)]
  | case3 => rfl

/-- Nothing is added where backslashes are dropped. -/
theorem unescape_sublist (text : List Char) :
    (unescape text).Sublist text := by
  fun_induction unescape text with
  | case1 rest inductionHypothesis => exact (inductionHypothesis.cons_cons '[').cons '\\'
  | case2 character rest _ inductionHypothesis => exact inductionHypothesis.cons_cons character
  | case3 => exact List.Sublist.refl []

/-! ## Parts of a text -/

/-- What is passed over before the end of a tag is its content. -/
theorem eq_of_tagRest?
    {passed text content after : List Char}
    (found : tagRest? passed text = some (content, after)) :
    passed.reverse ++ text = content ++ ']' :: after := by
  fun_induction tagRest? passed text with
  | case1 => cases found
  | case2 passed rest =>
      cases found
      rfl
  | case3 => cases found
  | case4 passed character rest _ _ inductionHypothesis =>
      rw [← inductionHypothesis found]
      simp

/-- A text that starts with a tag has its content between brackets. -/
theorem eq_of_tag?
    {text content after : List Char}
    (found : tag? text = some (content, after)) :
    text = '[' :: content ++ ']' :: after := by
  unfold tag? at found
  split at found
  · split at found
    · simpa using eq_of_tagRest? found
    · cases found
  · cases found

/-- A text in which a tag starts consists of what is before the tag, the tag and what follows it. -/
theorem eq_of_tag?_drop
    {text content after : List Char}
    {count : Nat}
    (found : tag? (text.drop count) = some (content, after)) :
    text = text.take count ++ '[' :: content ++ ']' :: after := by
  have taken := (List.take_append_drop count text).symm
  rw [eq_of_tag? found] at taken
  simpa using taken

/-- The parts of a text do not depend on how many steps are allowed for, if they are enough. -/
theorem partsFrom_eq_parts
    {fuel : Nat}
    {text : List Char}
    (enough : text.length < fuel) :
    partsFrom fuel text = parts text := by
  have agree : ∀ first second (text : List Char), text.length < first → text.length < second →
      partsFrom first text = partsFrom second text := by
    intro first
    induction first with
    | zero => exact fun second text none => absurd none (Nat.not_lt_zero _)
    | succ first inductionHypothesis =>
        intro second text enough enough'
        obtain ⟨second, rfl⟩ := Nat.exists_eq_add_one_of_ne_zero (Nat.ne_zero_of_lt enough')
        cases text with
        | nil => rfl
        | cons character rest =>
            simp only [partsFrom]
            split
            · rw [inductionHypothesis second rest (Nat.lt_of_succ_lt_succ enough)
                (Nat.lt_of_succ_lt_succ enough')]
            · rename_i content after found
              have shorter := congrArg List.length (eq_of_tag?_drop found)
              simp only [List.length_append, List.length_cons] at shorter enough enough'
              rw [inductionHypothesis second after (by omega) (by omega)]
  exact agree _ _ text enough (Nat.lt_succ_self _)

/-- A character that is neither a backslash nor an opening bracket stands for itself. -/
theorem parts_cons
    {character : Char}
    (noEscape : character ≠ '\\')
    (noTag : character ≠ '[')
    (rest : List Char) :
    parts (character :: rest) = addText [character] (parts rest) := by
  have starts : tag? (character :: rest) = none := by
    simp [tag?, noTag]
  simp only [parts, List.length_cons, partsFrom]
  simp [noEscape, starts]

theorem filterMap_opened?_addText (characters : List Char) (parts : List Part) :
    (addText characters parts).filterMap opened? = parts.filterMap opened? := by
  cases parts with
  | nil => rfl
  | cons part rest => cases part <;> rfl

theorem render_addText
    {character : Char}
    (noEscape : character ≠ '\\')
    (noEmoji : character ≠ ':')
    (styles : List Opened)
    (parts : List Part) :
    render styles (addText [character] parts) = (render styles parts).map (character :: ·) := by
  have alone : replaceEmoji (unescape [character]) = [character] := by
    rw [unescape_cons noEscape, replaceEmoji_cons noEmoji]
    rfl
  cases parts with
  | nil =>
      change render styles [.text [character]] = _
      rw [render_text, alone]
      rfl
  | cons part rest =>
      cases part with
      | text characters =>
          rw [addText, render_text, render_text, List.singleton_append, unescape_cons noEscape,
            replaceEmoji_cons noEmoji]
          cases render styles rest <;> rfl
      | tag content =>
          change render styles (.text [character] :: .tag content :: rest) = _
          rw [render_text, alone]
          rfl

/-! ## What is shown for a text -/

/-- A text is shown if its parts can be rendered and all styles that it starts can be read. -/
theorem plain_eq (text : String) :
    plain text = (render [] (parts text.toList)).bind fun characters =>
      if ((parts text.toList).filterMap opened?).all Opened.isReadable then
        .ok (characters.filter fun character => !isDropped character)
      else .error .unreadableColor := by
  unfold plain
  dsimp only
  cases render [] (parts text.toList) with
  | error failure => rfl
  | ok characters =>
      cases ((parts text.toList).filterMap opened?).all Opened.isReadable <;> rfl

/-- A text cannot be shown if the first tag in it cannot be applied. -/
theorem plain_of_wrong
    {text : String}
    {before content : List Char}
    {rest : List Part}
    {failure : Failure}
    (tagged : parts text.toList = .text before :: .tag content :: rest)
    (wrong : apply [] content = .error failure) :
    plain text = .error failure := by
  rw [plain_eq, tagged, render_text, render_tag, wrong]
  rfl

/-- What is shown for a text in which no tag starts. -/
theorem plain_of_noTag
    {text : String}
    (noTag : ∀ rest, rest <:+ text.toList → tag? rest = none) :
    plain text = .ok ((replaceEmoji (unescape text.toList)).filter fun character =>
      !isDropped character) := by
  rw [plain_eq, parts, partsFrom_of_noTag (Nat.lt_succ_self _) noTag]
  split
  · rename_i empty
    rw [empty]
    rfl
  · rw [render_text]
    simp [render, Except.map, Except.bind, opened?]

/-- A plain tag that is started and ended around a word can be read, whatever follows. -/
theorem all_isReadable_word
    {name : String}
    (isPlainTag : IsPlainTag name)
    (word : List Char)
    (rest : List Part) :
    (List.filterMap opened?
        ([.text [], .tag name.toList, .text word, .tag ('/' :: name.toList)] ++ rest)).all
        Opened.isReadable =
      (rest.filterMap opened?).all Opened.isReadable := by
  have readable := isReadable_of_isPlainTag isPlainTag word []
  have noTag : opened? (.text []) = none := rfl
  rw [List.filterMap_append, List.all_append]
  simp only [List.filterMap_cons, List.filterMap_nil, noTag] at readable ⊢
  rw [readable, Bool.true_and]

/-- Whether a text stands for itself in markup. -/
structure IsLiteral (text : List Char) : Prop where
  /-- No tag starts in it. -/
  noTag : ∀ rest, rest <:+ text → tag? rest = none
  /-- No backslash in it takes the meaning of a bracket away. -/
  noEscape : unescape text = text
  /-- No emoji is named in it. -/
  noEmoji : replaceEmoji text = text

instance (text : List Char) : Decidable (∀ rest ∈ text.tails, tag? rest = none) :=
  List.decidableBAll _ text.tails

instance (text : List Char) : Decidable (IsLiteral text) :=
  decidable_of_iff ((∀ rest ∈ text.tails, tag? rest = none) ∧ unescape text = text ∧
      replaceEmoji text = text)
    ⟨fun literal => ⟨fun rest suffix => literal.1 rest ((List.mem_tails rest text).mpr suffix),
        literal.2.1, literal.2.2⟩,
      fun literal => ⟨fun rest among => literal.noTag rest ((List.mem_tails rest text).mp among),
        literal.noEscape, literal.noEmoji⟩⟩

/-- Without opening brackets and colons, everything in a text stands for itself. -/
theorem isLiteral_of_not_mem
    {text : List Char}
    (noBracket : '[' ∉ text)
    (noColon : ':' ∉ text) :
    IsLiteral text where
  noTag := fun _ suffix => tag?_of_not_mem fun present => noBracket (suffix.subset present)
  noEscape := unescape_of_not_mem noBracket
  noEmoji := replaceEmoji_of_not_mem noColon

/-- A literal text is shown as it is, if the terminal is sent all of its characters. -/
theorem plain_of_isLiteral
    {text : String}
    (isLiteral : IsLiteral text.toList)
    (sent : ∀ character ∈ text.toList, isDropped character = false) :
    plain text = .ok text.toList := by
  rw [plain_of_noTag isLiteral.noTag, isLiteral.noEscape, isLiteral.noEmoji,
    List.filter_eq_self.mpr fun character present => by simp [sent character present]]

/-! ## Texts that are not shown as they are -/

/-- The characters of a part that are written to the terminal. -/
def Part.characters : Part → List Char
  | .text characters => characters
  | .tag _ => []

/-- The characters of parts that are written to the terminal. -/
def written (parts : List Part) : List Char :=
  parts.flatMap Part.characters

@[simp]
theorem written_nil : written [] = [] := rfl

@[simp]
theorem written_text_cons (characters : List Char) (rest : List Part) :
    written (.text characters :: rest) = characters ++ written rest := rfl

@[simp]
theorem written_tag_cons (content : List Char) (rest : List Part) :
    written (.tag content :: rest) = written rest := rfl

theorem written_addText (characters : List Char) (parts : List Part) :
    written (addText characters parts) = characters ++ written parts := by
  cases parts with
  | nil => simp [addText]
  | cons part rest => cases part <;> simp [addText]

/-- The backslashes at the start of a text. -/
theorem take_backslashes (text : List Char) :
    text.take (text.takeWhile (· = '\\')).length =
      List.replicate (text.takeWhile (· = '\\')).length '\\' := by
  rw [← List.prefix_iff_eq_take.mp (List.takeWhile_prefix _), List.eq_replicate_iff]
  exact ⟨rfl, fun _ present => by simpa using List.mem_takeWhile_imp present⟩

/-- Nothing is written but characters of the text, and fewer of them if a tag starts in it. -/
theorem written_partsFrom
    (fuel : Nat)
    (text : List Char) :
    (written (partsFrom fuel text)).Sublist text ∧
      (text.length < fuel → (written (partsFrom fuel text)).length = text.length →
        ∀ rest, rest <:+ text → tag? rest = none) := by
  induction fuel generalizing text with
  | zero => exact ⟨List.nil_sublist text, fun enough => absurd enough (Nat.not_lt_zero _)⟩
  | succ fuel inductionHypothesis =>
      cases text with
      | nil =>
          refine ⟨List.Sublist.refl [], fun _ _ rest suffix => ?_⟩
          rw [List.suffix_nil.mp suffix]
          rfl
      | cons character rest =>
          simp only [partsFrom]
          split
          · rename_i starts
            obtain ⟨kept, exact⟩ := inductionHypothesis rest
            rw [written_addText, List.singleton_append]
            refine ⟨kept.cons_cons character, fun enough same within suffix => ?_⟩
            rcases List.suffix_cons_iff.mp suffix with rfl | later
            · by_cases escapes : character = '\\'
              · simp [tag?, escapes]
              · simpa [escapes] using starts
            · exact exact (Nat.lt_of_succ_lt_succ enough) (Nat.succ.inj same) within later
          · rename_i content after found
            obtain ⟨kept, -⟩ := inductionHypothesis after
            have whole := eq_of_tag?_drop found
            rw [take_backslashes] at whole
            generalize ((character :: rest).takeWhile (· = '\\')).length = count at whole ⊢
            -- Half of the backslashes are written.  An odd one is lost and has the brackets
            -- written with what is between them; otherwise these are lost.
            have fewer : (List.replicate (count / 2) '\\').Sublist (List.replicate count '\\') :=
              (List.replicate_sublist_replicate '\\').mpr (Nat.div_le_self count 2)
            have shorter := kept.length_le
            rw [whole]
            split
            · have wrote : written (.text (List.replicate (count / 2) '\\') ::
                  .text ('[' :: content ++ [']']) :: .text [] :: partsFrom fuel after) =
                    List.replicate (count / 2) '\\' ++ '[' :: content ++
                      ']' :: written (partsFrom fuel after) := by
                simp
              rw [wrote]
              refine ⟨(fewer.append (List.Sublist.refl _)).append (kept.cons_cons ']'),
                fun _ same => ?_⟩
              simp only [List.length_append, List.length_replicate, List.length_cons] at same
              omega
            · have wrote : written (.text (List.replicate (count / 2) '\\') :: .tag content ::
                  partsFrom fuel after) =
                    List.replicate (count / 2) '\\' ++ written (partsFrom fuel after) := by
                simp
              rw [wrote, List.append_assoc]
              refine ⟨fewer.append ((kept.cons ']').trans (List.sublist_append_right _ _)),
                fun _ same => ?_⟩
              simp only [List.length_append, List.length_replicate, List.length_cons] at same
              omega

/-- Without colons, nothing is shown but what is written. -/
theorem render_sublist
    {styles : List Opened}
    {parts : List Part}
    {shown : List Char}
    (rendered : render styles parts = .ok shown)
    (noColon : ':' ∉ written parts) :
    shown.Sublist (written parts) := by
  induction parts generalizing styles shown with
  | nil =>
      cases rendered
      exact List.Sublist.refl []
  | cons part rest inductionHypothesis =>
      cases part with
      | text characters =>
          rw [written_text_cons, List.mem_append, not_or] at noColon
          obtain ⟨noColonHere, noColonLater⟩ := noColon
          rw [render_text] at rendered
          cases later : render styles rest with
          | error failure =>
              rw [later] at rendered
              cases rendered
          | ok more =>
              rw [later] at rendered
              cases rendered
              have unescaped := unescape_sublist characters
              rw [replaceEmoji_of_not_mem fun present => noColonHere (unescaped.subset present)]
              exact unescaped.append (inductionHypothesis later noColonLater)
      | tag content =>
          rw [render_tag] at rendered
          cases applied : apply styles content with
          | error failure =>
              rw [applied] at rendered
              cases rendered
          | ok styles =>
              rw [applied] at rendered
              exact inductionHypothesis rendered noColon

/-- A text without colons is shown as it is only if it is literal. -/
theorem isLiteral_of_plain
    {text : String}
    (noColon : ':' ∉ text.toList)
    (same : plain text = .ok text.toList) :
    IsLiteral text.toList := by
  obtain ⟨kept, exact⟩ := written_partsFrom (text.toList.length + 1) text.toList
  change (written (parts text.toList)).Sublist text.toList at kept
  have shownAll : ∃ shown, render [] (parts text.toList) = .ok shown ∧
      text.toList.Sublist shown := by
    rw [plain_eq] at same
    cases rendered : render [] (parts text.toList) with
    | error failure =>
        rw [rendered] at same
        cases same
    | ok shown =>
        rw [rendered, Except.bind] at same
        split at same
        · refine ⟨shown, rfl, ?_⟩
          rw [← Except.ok.inj same]
          exact List.filter_sublist
        · cases same
  obtain ⟨shown, rendered, all⟩ := shownAll
  have wrote := render_sublist rendered fun present => noColon (kept.subset present)
  have noTag := exact (Nat.lt_succ_self _)
    (Nat.le_antisymm kept.length_le (all.trans wrote).length_le)
  have noEscape : unescape text.toList = text.toList := by
    rw [plain_of_noTag noTag] at same
    have whole := List.filter_sublist (l := replaceEmoji (unescape text.toList))
      (p := fun character => !isDropped character)
    rw [Except.ok.inj same, replaceEmoji_of_not_mem fun present =>
      noColon ((unescape_sublist text.toList).subset present)] at whole
    exact (unescape_sublist text.toList).eq_of_length_le whole.length_le
  exact ⟨noTag, noEscape, replaceEmoji_of_not_mem noColon⟩

end Markup
end Terminal

/-! ## Messages -/

namespace CommandLine

open Terminal

/-- A message shows its word, and after it what its text shows. -/
theorem Message.plain_markup (message : Message) :
    Markup.plain message.markup = (Markup.plain message.text).map fun shown =>
      message.kind.word.toList ++ ' ' :: shown := by
  obtain ⟨kind, text⟩ := message
  have characters : (Message.mk kind text).markup.toList =
      kind.label.toList ++ ' ' :: text.toList := by
    simp [markup]
  have longer : kind.word.toList.length + 2 < kind.label.toList.length := by
    cases kind <;> decide
  have steps : (kind.label.toList ++ ' ' :: text.toList).length + 1 =
      (kind.label.toList.length - (kind.word.toList.length + 2) + (' ' :: text.toList).length + 1) +
        (kind.word.toList.length + 2) := by
    rw [List.length_append]
    omega
  have parts : Markup.parts (Message.mk kind text).markup.toList =
      [.text [], .tag kind.style.toList, .text kind.word.toList, .tag ('/' :: kind.style.toList)] ++
        Markup.addText [' '] (Markup.parts text.toList) := by
    rw [characters, Markup.parts, steps, partsFrom_label, Markup.partsFrom_eq_parts (by omega),
      Markup.parts_cons (by decide) (by decide)]
  have word : replaceEmoji (Markup.unescape kind.word.toList) = kind.word.toList := by
    cases kind <;> decide
  have sent : kind.word.toList.filter (fun character => !Markup.isDropped character) =
      kind.word.toList := by
    cases kind <;> decide
  rw [Markup.plain_eq, Markup.plain_eq, parts, Markup.render_word (isPlainTag_style kind), word,
    Markup.all_isReadable_word (isPlainTag_style kind), Markup.filterMap_opened?_addText,
    Markup.render_addText (by decide) (by decide)]
  cases Markup.render [] (Markup.parts text.toList) with
  | error failure => rfl
  | ok shown =>
      simp only [Except.map, Except.bind]
      split
      · rw [List.filter_append, sent]
        rfl
      · rfl

end CommandLine
end Snippets
