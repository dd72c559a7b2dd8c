import Mathlib.Data.List.TakeWhile
import Snippets.Terminal.Table

/-!
# Texts that fit

The cells of a text are counted sign by sign, and a joiner takes the character after it into the
sign before it.  Hence two texts together may take fewer cells than each for itself, but not if the
first one ends in a blank, as every word of a line but the last one does.  The main statements say
that a line that fits is neither broken nor cut.
-/

namespace Snippets
namespace Terminal

/-! ## Lines -/

/-- Whether a text is a single line without control characters. -/
def IsLine (text : List Char) : Prop :=
  ∀ character ∈ text, 32 ≤ character.toNat ∧ Table.endsLine character = false

instance (text : List Char) : Decidable (IsLine text) :=
  List.decidableBAll _ text

theorem IsLine.not_mem
    {text : List Char}
    {character : Char}
    (isLine : IsLine text)
    (control : character.toNat < 32) :
    character ∉ text :=
  fun present => absurd (isLine character present).1 (Nat.not_le.mpr control)

/-- The terminal is sent all characters of a line. -/
theorem IsLine.isDropped_eq_false
    {text : List Char}
    (isLine : IsLine text) :
    ∀ character ∈ text, Markup.isDropped character = false := by
  intro character present
  have printable := (isLine character present).1
  simp only [Markup.isDropped, List.contains_eq_mem, List.mem_cons, List.not_mem_nil, or_false,
    decide_eq_false_iff_not]
  omega

theorem splitFeeds_of_not_mem
    {text : List Char}
    (noFeed : '\n' ∉ text) :
    splitFeeds text = [text] := by
  unfold splitFeeds
  induction text with
  | nil => rfl
  | cons character rest inductionHypothesis =>
      obtain ⟨differs, later⟩ := List.ne_and_not_mem_of_not_mem_cons noFeed
      rw [List.foldr_cons, inductionHypothesis later, if_neg differs.symm]

theorem expandTabs_of_not_mem
    {text : List Char}
    (noTab : '\t' ∉ text) :
    expandTabs text = text := by
  have kept (before : Nat) (part : List Char) :
      expandTabsFrom before part text = part.reverse ++ text := by
    induction text generalizing part with
    | nil => simp [expandTabsFrom]
    | cons character rest inductionHypothesis =>
        obtain ⟨differs, later⟩ := List.ne_and_not_mem_of_not_mem_cons noTab
        rw [expandTabsFrom, if_neg differs.symm, inductionHypothesis later]
        simp
  exact kept 0 []

/-! ## Widths -/

section

variable (total : Nat) (last : Option Char)

theorem widthFrom_joiner (next : Char) (rest : List Char) :
    widthFrom total last (joiner :: next :: rest) = widthFrom total last rest := by
  rw [widthFrom.eq_def]
  rfl

theorem widthFrom_selector (rest : List Char) :
    widthFrom total last (emojiSelector :: rest) =
      widthFrom (total + if last.any isWidened then 1 else 0) none rest := by
  rw [widthFrom.eq_def]
  rfl

/-- Any other character brings its own cells. -/
theorem widthFrom_cons
    {character : Char}
    (noJoiner : character ≠ joiner)
    (noSelector : character ≠ emojiSelector)
    (rest : List Char) :
    widthFrom total last (character :: rest) =
      widthFrom (total + charWidth character)
        (if charWidth character = 0 then last else some character) rest := by
  rw [widthFrom.eq_def]
  simp only [if_neg noJoiner, if_neg noSelector]
  split
  · rename_i zero
    rw [zero, Nat.add_zero]
  · rfl

end

/-- The characters of a text as its cells are counted. -/
@[elab_as_elim]
theorem width_induction
    {motive : List Char → Prop}
    (nil : motive [])
    (joinerLast : motive [joiner])
    (joined : ∀ next rest, motive rest → motive (joiner :: next :: rest))
    (selected : ∀ rest, motive rest → motive (emojiSelector :: rest))
    (other : ∀ character rest, character ≠ joiner → character ≠ emojiSelector → motive rest →
      motive (character :: rest))
    (text : List Char) :
    motive text :=
  widthFrom.induct (fun _ _ => motive) (fun _ _ => nil) (fun _ _ => joinerLast)
    (fun _ _ => joined) (fun _ _ rest _ => selected rest)
    (fun _ _ character rest noJoiner noSelector _ => other character rest noJoiner noSelector)
    (fun _ _ character rest noJoiner noSelector _ => other character rest noJoiner noSelector)
    0 none text

/-- A text takes no fewer cells after others, and after a character that may still be widened. -/
theorem widthFrom_le_widthFrom
    {first second more : Nat}
    (text : List Char)
    (fewer : first + more ≤ second)
    {before before' : Option Char}
    (weaker : before = none ∨ before = before') :
    widthFrom first before text + more ≤ widthFrom second before' text := by
  induction text using width_induction generalizing first second before before' with
  | nil => simpa [widthFrom] using fewer
  | joinerLast => simpa [widthFrom] using fewer
  | joined next rest inductionHypothesis =>
      rw [widthFrom_joiner, widthFrom_joiner]
      exact inductionHypothesis fewer weaker
  | selected rest inductionHypothesis =>
      rw [widthFrom_selector, widthFrom_selector]
      refine inductionHypothesis ?_ (.inl rfl)
      rcases weaker with rfl | rfl
      · simp only [Option.any_none, Bool.false_eq_true, if_false]
        omega
      · omega
  | other character rest noJoiner noSelector inductionHypothesis =>
      rw [widthFrom_cons _ _ noJoiner noSelector, widthFrom_cons _ _ noJoiner noSelector]
      refine inductionHypothesis (by omega) ?_
      split
      · exact weaker
      · exact .inr rfl

theorem le_widthFrom (total : Nat) (last : Option Char) (text : List Char) :
    total ≤ widthFrom total last text := by
  have started : widthFrom 0 none text + total ≤ widthFrom total last text :=
    widthFrom_le_widthFrom text (Nat.le_of_eq (Nat.zero_add total)) (.inl rfl)
  omega

/-- A text that does not end in a joiner is counted before what follows it. -/
theorem widthFrom_append
    (total : Nat)
    (last : Option Char)
    {first : List Char}
    (ends : first.getLast? ≠ some joiner)
    (second : List Char) :
    ∃ before, widthFrom total last (first ++ second) =
      widthFrom (widthFrom total last first) before second := by
  induction first using width_induction generalizing total last with
  | nil => exact ⟨last, rfl⟩
  | joinerLast => exact absurd rfl ends
  | joined next rest inductionHypothesis =>
      simp only [List.cons_append, widthFrom_joiner]
      refine inductionHypothesis total last fun same => ends ?_
      rw [List.getLast?_cons_cons, List.getLast?_cons, same]
      rfl
  | selected rest inductionHypothesis =>
      simp only [List.cons_append, widthFrom_selector]
      refine inductionHypothesis _ none fun same => ends ?_
      rw [List.getLast?_cons, same]
      rfl
  | other character rest noJoiner noSelector inductionHypothesis =>
      simp only [List.cons_append, widthFrom_cons _ _ noJoiner noSelector]
      refine inductionHypothesis _ _ fun same => ends ?_
      rw [List.getLast?_cons, same]
      rfl

/-- Two texts together take no fewer cells than each for itself, unless a joiner at the end of the
first one takes in a character of the second one. -/
theorem width_add_le
    {first : List Char}
    (ends : first.getLast? ≠ some joiner)
    (second : List Char) :
    width first + width second ≤ width (first ++ second) := by
  obtain ⟨before, counted⟩ := widthFrom_append 0 none ends second
  have later : widthFrom 0 none second + width first ≤ widthFrom (width first) before second :=
    widthFrom_le_widthFrom second (Nat.le_of_eq (Nat.zero_add _)) (.inl rfl)
  unfold width at later ⊢
  rw [counted]
  omega

/-- The start of a text takes no more cells than the text. -/
theorem width_le_of_isPrefix
    {first second : List Char}
    (starts : first <+: second) :
    width first ≤ width second := by
  obtain ⟨rest, rfl⟩ := starts
  have grows (total : Nat) (last : Option Char) :
      widthFrom total last first ≤ widthFrom total last (first ++ rest) := by
    induction first using width_induction generalizing total last with
    | nil => exact le_widthFrom total last rest
    | joinerLast =>
        cases rest with
        | nil => exact Nat.le_refl _
        | cons next rest =>
            change total ≤ widthFrom total last (joiner :: next :: rest)
            rw [widthFrom_joiner]
            exact le_widthFrom total last rest
    | joined next rest inductionHypothesis =>
        simpa only [List.cons_append, widthFrom_joiner] using inductionHypothesis total last
    | selected rest inductionHypothesis =>
        simpa only [List.cons_append, widthFrom_selector] using inductionHypothesis _ none
    | other character rest noJoiner noSelector inductionHypothesis =>
        simpa only [List.cons_append, widthFrom_cons _ _ noJoiner noSelector] using
          inductionHypothesis _ _
  exact grows 0 none

/-! ## Words -/

theorem wordsFrom_ne_nil
    {current : List Char}
    (ended : Bool)
    (text : List Char) :
    wordsFrom current true ended text ≠ [] := by
  induction text generalizing current ended with
  | nil => simp [wordsFrom]
  | cons character rest inductionHypothesis =>
      unfold wordsFrom
      split
      · exact inductionHypothesis true
      · split
        · exact List.cons_ne_nil _ _
        · exact inductionHypothesis false

/-- The words of a text make up the text, if there are any. -/
theorem flatten_wordsFrom
    {current : List Char}
    {seen ended : Bool}
    {text : List Char}
    (nonempty : wordsFrom current seen ended text ≠ []) :
    (wordsFrom current seen ended text).flatten = current.reverse ++ text := by
  induction text generalizing current seen ended with
  | nil =>
      cases seen with
      | false => exact absurd rfl nonempty
      | true => simp [wordsFrom]
  | cons character rest inductionHypothesis =>
      unfold wordsFrom at nonempty ⊢
      split at nonempty
      · rename_i blank
        rw [if_pos blank, inductionHypothesis nonempty]
        simp
      · rename_i visible
        rw [if_neg visible]
        split
        · rw [List.flatten_cons, inductionHypothesis (wordsFrom_ne_nil false rest)]
          simp
        · rw [inductionHypothesis (wordsFrom_ne_nil false rest)]
          simp

/-- Whether every text but the last one ends in a blank character. -/
def EndBlank (words : List (List Char)) : Prop :=
  ∀ word ∈ words.dropLast, ∃ character ∈ word.getLast?, Text.isBlank character = true

/-- Every word but the last one ends in a blank character. -/
theorem endBlank_wordsFrom
    {current : List Char}
    {seen ended : Bool}
    (blankAtEnd : ended = true → ∃ character ∈ current.head?, Text.isBlank character = true)
    (text : List Char) :
    EndBlank (wordsFrom current seen ended text) := by
  induction text generalizing current seen ended with
  | nil => cases seen <;> simp [wordsFrom, EndBlank]
  | cons character rest inductionHypothesis =>
      unfold wordsFrom
      split
      · rename_i blank
        exact inductionHypothesis fun _ => ⟨character, rfl, blank⟩
      · split
        · rename_i wordEnded
          have within : EndBlank (wordsFrom [character] true false rest) :=
            inductionHypothesis nofun
          intro word present
          rw [List.dropLast_cons_of_ne_nil (wordsFrom_ne_nil false rest)] at present
          rcases List.mem_cons.mp present with rfl | later
          · rw [List.getLast?_reverse]
            exact blankAtEnd wordEnded
          · exact within word later
        · exact inductionHypothesis nofun

/-! ## Lines that fit -/

/-- A word that fits is put into the line at hand. -/
theorem Filling.add_of_width_le
    {limit : Nat}
    (overflow : Overflow)
    {filling : Filling}
    {word : List Char}
    (fits : width (trimEnd word) + filling.used ≤ limit) :
    filling.add limit overflow word = filling.put word := by
  unfold add
  exact if_pos fits

/-- Words that fit together with those that are there are put into the line at hand. -/
theorem foldl_add_of_width_le
    {limit : Nat}
    (overflow : Overflow)
    {words : List (List Char)}
    (endBlank : EndBlank words)
    {filling : Filling}
    (fits : filling.used + width words.flatten ≤ limit) :
    ∃ used, words.foldl (Filling.add limit overflow) filling =
      ⟨filling.complete, words.reverse ++ filling.current, used⟩ := by
  induction words generalizing filling with
  | nil => exact ⟨filling.used, rfl⟩
  | cons word rest inductionHypothesis =>
      have trimmed : width (trimEnd word) ≤ width word :=
        width_le_of_isPrefix (List.reverse_suffix.mp (by
          rw [trimEnd, List.reverse_reverse]
          exact List.dropWhile_suffix _))
      have together : width word + width rest.flatten ≤ width (word :: rest).flatten := by
        rw [List.flatten_cons]
        cases rest with
        | nil => simp [width, widthFrom]
        | cons next rest =>
            obtain ⟨character, last, blank⟩ := endBlank word (by simp)
            refine width_add_le (fun same => ?_) _
            rw [last] at same
            obtain rfl := Option.some.inj same
            exact absurd blank (by decide)
      have fitsHere : width (trimEnd word) + filling.used ≤ limit := by omega
      rw [List.foldl_cons, Filling.add_of_width_le overflow fitsHere]
      have fitsLater : (filling.put word).used + width rest.flatten ≤ limit := by
        simp only [Filling.put]
        omega
      obtain ⟨used, filled⟩ := inductionHypothesis
        (fun later present => endBlank later (by
          cases rest with
          | nil => simp at present
          | cons next rest => exact List.mem_cons_of_mem word present)) fitsLater
      refine ⟨used, ?_⟩
      rw [filled]
      simp [Filling.put]

/-- A line that fits is not broken. -/
theorem breakLine_of_width_le
    {limit : Nat}
    (overflow : Overflow)
    {line : List Char}
    (fits : width line ≤ limit) :
    breakLine limit overflow line = [line] := by
  unfold breakLine
  dsimp only
  split
  · rfl
  · rename_i some
    have flatten : (wordsOf line).flatten = line :=
      flatten_wordsFrom fun none => some (List.isEmpty_iff.mpr none)
    have endBlank : EndBlank (wordsOf line) := endBlank_wordsFrom (by simp) line
    have fitsFirst : (Filling.mk [] [] 0).used + width (wordsOf line).flatten ≤ limit := by
      rwa [flatten, Nat.zero_add]
    obtain ⟨used, filled⟩ := foldl_add_of_width_le overflow endBlank fitsFirst
    rw [filled]
    simp [Filling.lines, flatten]

/-- Whether a line keeps the blank characters at its end where it is broken: it has none, or none of
its characters is without a cell. -/
def KeepsEnd (line : List Char) : Prop :=
  trimEnd line = line ∨ line.length ≤ width line

instance (line : List Char) : Decidable (KeepsEnd line) :=
  inferInstanceAs (Decidable (_ ∨ _))

theorem trimBeyond_of_length_le
    {limit : Nat}
    {line : List Char}
    (short : line.length ≤ limit) :
    trimBeyond limit line = line := by
  rw [trimBeyond, Nat.sub_eq_zero_of_le short, Nat.min_zero, Nat.sub_zero, List.take_length]

theorem trimBeyond_of_keepsEnd
    {limit : Nat}
    {line : List Char}
    (keepsEnd : KeepsEnd line)
    (fits : width line ≤ limit) :
    trimBeyond limit line = line := by
  rcases keepsEnd with trimmed | short
  · rw [trimBeyond, trimmed, Nat.sub_self, Nat.zero_min, Nat.sub_zero, List.take_length]
  · exact trimBeyond_of_length_le (Nat.le_trans short fits)

theorem truncate_of_width_le
    {limit : Nat}
    (overflow : Overflow)
    {line : List Char}
    (fits : width line ≤ limit) :
    truncate limit overflow line = line :=
  if_pos fits

/-- A line that fits is only aligned. -/
theorem wrap_eq_align
    {limit : Nat}
    (alignment : Alignment)
    (overflow : Overflow)
    {breaks : Bool}
    {line : List Char}
    (isLine : IsLine line)
    (fits : width line ≤ limit)
    (kept : breaks = true → trimBeyond limit line = line) :
    wrap limit alignment overflow breaks line = [align limit alignment overflow line] := by
  rw [wrap, splitFeeds_of_not_mem (isLine.not_mem (by decide)), List.flatMap_singleton,
    expandTabs_of_not_mem (isLine.not_mem (by decide))]
  cases breaks with
  | false => rfl
  | true => simp [breakLine_of_width_le overflow fits, kept]

/-- A line that fits is shown as it is. -/
theorem wrap_of_width_le
    {limit : Nat}
    (overflow : Overflow)
    {line : List Char}
    (isLine : IsLine line)
    (fits : width line ≤ limit)
    (short : line.length ≤ limit) :
    wrap limit .natural overflow true line = [line] := by
  rw [wrap_eq_align .natural overflow isLine fits fun _ => trimBeyond_of_length_le short, align,
    truncate_of_width_le overflow fits]

end Terminal
end Snippets
