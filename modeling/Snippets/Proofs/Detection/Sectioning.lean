import Mathlib.Data.List.Chain
import Mathlib.Data.List.Pairwise
import Mathlib.Data.List.Sort
import Mathlib.Logic.ExistsUnique
import Snippets.Section

/-!
# What the sections of a text are

A sectioning cuts the lines of a text into extents: each starts and ends at a line with
content, every line with content lies in exactly one, none holds two blank lines in a row,
and at least two lines stand between one and the next.  A section is an extent that can be
made no longer.  The members of a sectioning are the sections of the text, so there is only
one sectioning, and the main statement says that the scan for sections finds it.
-/

namespace Snippets
namespace Section

/-- Whether a number is that of a line which is not blank. -/
def HasContent (lines : List Line) (number : Nat) : Prop :=
  ∃ line, lines[number]? = some line ∧ line.isBlank = false

/-- Whether a line lies in an extent. -/
def Covers (extent : Extent) (number : Nat) : Prop :=
  extent.1 ≤ number ∧ number ≤ extent.2

/-- A list of extents that cuts lines into sections. -/
structure IsSectioning (lines : List Line) (sections : List Extent) : Prop where
  /-- No extent ends before it starts, and all lie within the lines. -/
  bounds : ∀ extent ∈ sections, extent.1 ≤ extent.2 ∧ extent.2 < lines.length
  /-- The first and the last line of an extent are not blank. -/
  ends : ∀ extent ∈ sections, HasContent lines extent.1 ∧ HasContent lines extent.2
  /-- Every line that is not blank lies in exactly one extent. -/
  covers : ∀ number, HasContent lines number →
    ∃! extent, extent ∈ sections ∧ Covers extent number
  /-- No extent holds two adjacent blank lines. -/
  tight : ∀ extent ∈ sections, ∀ number, Covers extent number → Covers extent (number + 1) →
    HasContent lines number ∨ HasContent lines (number + 1)
  /-- At least two lines stand between consecutive extents. -/
  apart : sections.IsChain fun first second => first.2 + 3 ≤ second.1

/-- An extent that cannot be made longer: the two lines before it and the two lines after it
are blank, as far as there are such lines. -/
structure IsSection (lines : List Line) (extent : Extent) : Prop where
  /-- The extent does not end before it starts. -/
  ordered : extent.1 ≤ extent.2
  /-- The first line is not blank. -/
  start : HasContent lines extent.1
  /-- The last line is not blank. -/
  stop : HasContent lines extent.2
  /-- Of two adjacent lines one is not blank. -/
  tight : ∀ number, Covers extent number → Covers extent (number + 1) →
    HasContent lines number ∨ HasContent lines (number + 1)
  /-- The two lines before the first one are blank. -/
  before : ∀ number, number < extent.1 → extent.1 ≤ number + 2 → ¬HasContent lines number
  /-- The two lines after the last one are blank. -/
  after : ∀ number, extent.2 < number → number ≤ extent.2 + 2 → ¬HasContent lines number

/-- Two extents of which the second starts more than two lines after the end of the
first. -/
def Precedes (first second : Extent) : Prop :=
  first.1 ≤ first.2 ∧ first.2 + 3 ≤ second.1 ∧ second.1 ≤ second.2

instance : Trans Precedes Precedes Precedes where
  trans := by
    intro first second third former latter
    unfold Precedes at *
    omega

instance : Std.Irrefl Precedes where
  irrefl extent precedes := by
    unfold Precedes at precedes
    omega

instance : Std.Antisymm Precedes where
  antisymm first second former latter := by
    unfold Precedes at *
    omega

/-! ## Lines with content -/

theorem HasContent.lt_length
    {lines : List Line}
    {number : Nat}
    (content : HasContent lines number) :
    number < lines.length := by
  obtain ⟨line, found, _⟩ := content
  exact (List.getElem?_eq_some_iff.mp found).1

/-- One more line adds content at its own number only. -/
theorem hasContent_concat
    (lines : List Line)
    (line : Line)
    (number : Nat) :
    HasContent (lines ++ [line]) number ↔
      HasContent lines number ∨ number = lines.length ∧ line.isBlank = false := by
  rcases Nat.lt_trichotomy number lines.length with earlier | same | later
  · have different : number ≠ lines.length := by omega
    simp only [HasContent, List.getElem?_append_left earlier, different, false_and, or_false]
  · subst same
    simp [HasContent]
  · have different : number ≠ lines.length := by omega
    have absent : (lines ++ [line])[number]? = none := by
      rw [List.getElem?_eq_none_iff, List.length_append, List.length_singleton]
      omega
    have absentBefore : lines[number]? = none := List.getElem?_eq_none (Nat.le_of_lt later)
    simp [HasContent, different, absent, absentBefore]

theorem HasContent.concat
    {lines : List Line}
    {number : Nat}
    (content : HasContent lines number)
    (line : Line) :
    HasContent (lines ++ [line]) number :=
  (hasContent_concat lines line number).mpr (.inl content)

theorem hasContent_length
    (lines : List Line)
    {line : Line}
    (content : line.isBlank = false) :
    HasContent (lines ++ [line]) lines.length :=
  (hasContent_concat lines line lines.length).mpr (.inr ⟨rfl, content⟩)

/-! ## Extents one after the other -/

/-- Of two different extents in a list of extents one after the other, one comes before the
other. -/
theorem precedes_or_precedes
    {sections : List Extent}
    {first second : Extent}
    (pairwise : sections.Pairwise Precedes)
    (firstPresent : first ∈ sections)
    (secondPresent : second ∈ sections)
    (different : first ≠ second) :
    Precedes first second ∨ Precedes second first := by
  have either : sections.Pairwise fun former latter =>
      Precedes former latter ∨ Precedes latter former :=
    pairwise.imp Or.inl
  have : Std.Symm fun former latter => Precedes former latter ∨ Precedes latter former :=
    ⟨fun _ _ => Or.symm⟩
  exact either.forall firstPresent secondPresent different

/-- A line lies in at most one extent of a list of extents one after the other. -/
theorem eq_of_covers
    {sections : List Extent}
    {first second : Extent}
    {number : Nat}
    (pairwise : sections.Pairwise Precedes)
    (firstPresent : first ∈ sections)
    (secondPresent : second ∈ sections)
    (firstCovers : Covers first number)
    (secondCovers : Covers second number) :
    first = second := by
  by_contra different
  rcases precedes_or_precedes pairwise firstPresent secondPresent different with
    precedes | precedes
  all_goals
    unfold Covers at firstCovers secondCovers
    unfold Precedes at precedes
    omega

/-! ## Sectionings -/

namespace IsSectioning

variable {lines : List Line} {sections : List Extent}

/-- The extents of a sectioning come one after the other. -/
theorem pairwise (sectioning : IsSectioning lines sections) :
    sections.Pairwise Precedes := by
  have chain : sections.IsChain Precedes := by
    refine sectioning.apart.imp_of_mem_imp fun first second firstPresent secondPresent apart => ?_
    exact ⟨(sectioning.bounds first firstPresent).1, apart,
      (sectioning.bounds second secondPresent).1⟩
  exact chain.pairwise

/-- Extents one after the other are a sectioning if every line with content lies in one of
them. -/
theorem of_pairwise
    (ordered : ∀ extent ∈ sections, extent.1 ≤ extent.2)
    (ends : ∀ extent ∈ sections, HasContent lines extent.1 ∧ HasContent lines extent.2)
    (covers : ∀ number, HasContent lines number → ∃ extent ∈ sections, Covers extent number)
    (tight : ∀ extent ∈ sections, ∀ number, Covers extent number →
      Covers extent (number + 1) → HasContent lines number ∨ HasContent lines (number + 1))
    (pairwise : sections.Pairwise Precedes) :
    IsSectioning lines sections where
  bounds extent present := ⟨ordered extent present, (ends extent present).2.lt_length⟩
  ends := ends
  covers number content := by
    obtain ⟨extent, present, covered⟩ := covers number content
    refine ⟨extent, ⟨present, covered⟩, fun other otherCovers => ?_⟩
    exact eq_of_covers pairwise otherCovers.1 present otherCovers.2 covered
  tight := tight
  apart := (pairwise.imp fun precedes => precedes.2.1).isChain

/-- A line with content near an extent lies in it, because other extents are more than two
lines away. -/
theorem covers_of_near
    (sectioning : IsSectioning lines sections)
    {extent : Extent}
    (present : extent ∈ sections)
    {number : Nat}
    (content : HasContent lines number)
    (notBefore : extent.1 ≤ number + 2)
    (notAfter : number ≤ extent.2 + 2) :
    Covers extent number := by
  obtain ⟨other, ⟨otherPresent, covered⟩, _⟩ := sectioning.covers number content
  by_cases same : extent = other
  · exact same ▸ covered
  · unfold Covers at covered
    rcases precedes_or_precedes sectioning.pairwise present otherPresent same with
      precedes | precedes
    all_goals
      unfold Precedes at precedes
      omega

/-- The extents of a sectioning cannot be made longer. -/
theorem isSection_of_mem
    (sectioning : IsSectioning lines sections)
    {extent : Extent}
    (present : extent ∈ sections) :
    IsSection lines extent where
  ordered := (sectioning.bounds extent present).1
  start := (sectioning.ends extent present).1
  stop := (sectioning.ends extent present).2
  tight := sectioning.tight extent present
  before number earlier near content := by
    have ordered := (sectioning.bounds extent present).1
    have covered := sectioning.covers_of_near present content near (by omega)
    exact absurd covered.1 (by omega)
  after number later near content := by
    have ordered := (sectioning.bounds extent present).1
    have covered := sectioning.covers_of_near present content (by omega) near
    exact absurd covered.2 (by omega)

end IsSectioning

/-- A section starts no later than another one with a line in common. -/
theorem IsSection.start_le_start
    {lines : List Line}
    {first second : Extent}
    (firstSection : IsSection lines first)
    (secondSection : IsSection lines second)
    {number : Nat}
    (firstCovers : Covers first number)
    (secondCovers : Covers second number) :
    first.1 ≤ second.1 := by
  unfold Covers at firstCovers secondCovers
  by_contra later
  -- The second section starts before the first one, and all lines in between are its own.
  by_cases near : first.1 ≤ second.1 + 2
  · exact firstSection.before second.1 (by omega) near secondSection.start
  · have gap := secondSection.tight (first.1 - 2) ⟨by omega, by omega⟩ ⟨by omega, by omega⟩
    rcases gap with content | content
    · exact firstSection.before _ (by omega) (by omega) content
    · exact firstSection.before _ (by omega) (by omega) content

/-- A section ends no earlier than another one with a line in common. -/
theorem IsSection.stop_le_stop
    {lines : List Line}
    {first second : Extent}
    (firstSection : IsSection lines first)
    (secondSection : IsSection lines second)
    {number : Nat}
    (firstCovers : Covers first number)
    (secondCovers : Covers second number) :
    second.2 ≤ first.2 := by
  unfold Covers at firstCovers secondCovers
  by_contra earlier
  by_cases near : second.2 ≤ first.2 + 2
  · exact firstSection.after second.2 (by omega) near secondSection.stop
  · have gap := secondSection.tight (first.2 + 1) ⟨by omega, by omega⟩ ⟨by omega, by omega⟩
    rcases gap with content | content
    · exact firstSection.after _ (by omega) (by omega) content
    · exact firstSection.after _ (by omega) (by omega) content

/-- Sections with a line in common are the same. -/
theorem IsSection.eq_of_covers
    {lines : List Line}
    {first second : Extent}
    (firstSection : IsSection lines first)
    (secondSection : IsSection lines second)
    {number : Nat}
    (firstCovers : Covers first number)
    (secondCovers : Covers second number) :
    first = second := by
  apply Prod.ext
  · exact Nat.le_antisymm
      (firstSection.start_le_start secondSection firstCovers secondCovers)
      (secondSection.start_le_start firstSection secondCovers firstCovers)
  · exact Nat.le_antisymm
      (secondSection.stop_le_stop firstSection secondCovers firstCovers)
      (firstSection.stop_le_stop secondSection firstCovers secondCovers)

namespace IsSectioning

variable {lines : List Line} {sections : List Extent}

/-- The members of a sectioning are the sections of the text. -/
theorem mem_iff_isSection
    (sectioning : IsSectioning lines sections)
    (extent : Extent) :
    extent ∈ sections ↔ IsSection lines extent := by
  constructor
  · exact sectioning.isSection_of_mem
  · intro isSection
    obtain ⟨other, ⟨present, covered⟩, _⟩ := sectioning.covers extent.1 isSection.start
    have same : extent = other := isSection.eq_of_covers (sectioning.isSection_of_mem present)
      ⟨Nat.le_refl _, isSection.ordered⟩ covered
    exact same ▸ present

/-- All lines between consecutive extents are blank. -/
theorem blank_between (sectioning : IsSectioning lines sections) :
    sections.IsChain fun first second =>
      ∀ number, first.2 < number → number < second.1 → ¬HasContent lines number := by
  have precedes := List.pairwise_iff_getElem.mp sectioning.pairwise
  rw [List.isChain_iff_getElem]
  intro index inside number later earlier content
  obtain ⟨extent, ⟨present, covered⟩, _⟩ := sectioning.covers number content
  obtain ⟨position, valid, rfl⟩ := List.getElem_of_mem present
  unfold Covers at covered
  unfold Precedes at precedes
  -- The extent around the line would have to be before the first one or after the second.
  rcases Nat.lt_trichotomy position index with before | same | after
  · have distance := precedes position index valid (by omega) before
    omega
  · subst same
    omega
  · by_cases adjacent : position = index + 1
    · subst adjacent
      omega
    · have distance := precedes (index + 1) position inside valid (by omega)
      omega

/-- A text has only one sectioning. -/
theorem unique
    (sectioning : IsSectioning lines sections)
    {others : List Extent}
    (otherSectioning : IsSectioning lines others) :
    others = sections := by
  apply otherSectioning.pairwise.eq_of_mem_iff sectioning.pairwise
  intro extent
  rw [otherSectioning.mem_iff_isSection, sectioning.mem_iff_isSection]

/-! ## One more line -/

/-- A blank line at the end changes nothing. -/
theorem concat_blank
    (sectioning : IsSectioning lines sections)
    {line : Line}
    (blank : line.isBlank = true) :
    IsSectioning (lines ++ [line]) sections := by
  have same : ∀ number, HasContent (lines ++ [line]) number ↔ HasContent lines number := by
    intro number
    simp [hasContent_concat, blank]
  apply of_pairwise
  · exact fun extent present => (sectioning.bounds extent present).1
  · intro extent present
    rw [same, same]
    exact sectioning.ends extent present
  · intro number content
    exact (sectioning.covers number ((same number).mp content)).exists
  · intro extent present number covered coveredNext
    rw [same, same]
    exact sectioning.tight extent present number covered coveredNext
  · exact sectioning.pairwise

/-- A line with content starts an extent of its own if at least two lines stand between it
and all extents. -/
theorem concat_start
    (sectioning : IsSectioning lines sections)
    {line : Line}
    (content : line.isBlank = false)
    (far : ∀ extent ∈ sections, extent.2 + 3 ≤ lines.length) :
    IsSectioning (lines ++ [line]) (sections ++ [(lines.length, lines.length)]) := by
  have last := hasContent_length lines content
  have kept (number : Nat) (present : HasContent lines number) := present.concat line
  apply of_pairwise
  · intro extent present
    rcases List.mem_append.mp present with old | new
    · exact (sectioning.bounds extent old).1
    · exact List.mem_singleton.mp new ▸ Nat.le_refl _
  · intro extent present
    rcases List.mem_append.mp present with old | new
    · exact ⟨kept _ (sectioning.ends extent old).1, kept _ (sectioning.ends extent old).2⟩
    · exact List.mem_singleton.mp new ▸ ⟨last, last⟩
  · intro number present
    rcases (hasContent_concat lines line number).mp present with old | ⟨rfl, _⟩
    · obtain ⟨extent, ⟨member, covered⟩, _⟩ := sectioning.covers number old
      exact ⟨extent, List.mem_append_left _ member, covered⟩
    · exact ⟨_, List.mem_append_right _ (List.mem_singleton_self _), Nat.le_refl _, Nat.le_refl _⟩
  · intro extent present number covered coveredNext
    rcases List.mem_append.mp present with old | new
    · exact (sectioning.tight extent old number covered coveredNext).imp (kept _) (kept _)
    · rw [List.mem_singleton.mp new] at covered coveredNext
      unfold Covers at covered coveredNext
      omega
  · rw [List.pairwise_append]
    refine ⟨sectioning.pairwise, List.pairwise_singleton _ _, fun extent old other new => ?_⟩
    rw [List.mem_singleton.mp new]
    exact ⟨(sectioning.bounds extent old).1, far extent old, Nat.le_refl _⟩

/-- If the last extent is far from the end of the lines, then all extents are. -/
theorem far_of_far_last
    {earlier : List Extent}
    {last : Extent}
    (sectioning : IsSectioning lines (earlier ++ [last]))
    (far : last.2 + 3 ≤ lines.length) :
    ∀ extent ∈ earlier ++ [last], extent.2 + 3 ≤ lines.length := by
  intro extent present
  obtain ⟨_, _, cross⟩ := List.pairwise_append.mp sectioning.pairwise
  rcases List.mem_append.mp present with former | isLast
  · have precedes := cross extent former last (List.mem_singleton_self _)
    unfold Precedes at precedes
    omega
  · exact List.mem_singleton.mp isLast ▸ far

/-- The last extent stays tight when it is extended over at most one line in between to a line with
content. -/
theorem tight_extended
    {earlier : List Extent}
    {first last : Nat}
    (sectioning : IsSectioning lines (earlier ++ [(first, last)]))
    {line : Line}
    (content : line.isBlank = false)
    (near : lines.length ≤ last + 2)
    {number : Nat}
    (start : first ≤ number)
    (stop : number + 1 ≤ lines.length) :
    HasContent (lines ++ [line]) number ∨ HasContent (lines ++ [line]) (number + 1) := by
  have lastPresent : (first, last) ∈ earlier ++ [(first, last)] :=
    List.mem_append_right _ (List.mem_singleton_self _)
  have kept (number : Nat) (present : HasContent lines number) := present.concat line
  rcases Nat.lt_trichotomy number last with inside | same | beyond
  · exact (sectioning.tight (first, last) lastPresent number ⟨start, Nat.le_of_lt inside⟩
      ⟨Nat.le_succ_of_le start, inside⟩).imp (kept _) (kept _)
  · exact .inl (same ▸ kept _ (sectioning.ends (first, last) lastPresent).2)
  -- Past the old end, the only line that may be blank is the one before the new line.
  · have isNew : number + 1 = lines.length := by omega
    exact .inr (isNew ▸ hasContent_length lines content)

/-- A line with content belongs to the last extent if at most one line stands between the
two. -/
theorem concat_extend
    {earlier : List Extent}
    {first last : Nat}
    (sectioning : IsSectioning lines (earlier ++ [(first, last)]))
    {line : Line}
    (content : line.isBlank = false)
    (near : lines.length ≤ last + 2) :
    IsSectioning (lines ++ [line]) (earlier ++ [(first, lines.length)]) := by
  have lastPresent : (first, last) ∈ earlier ++ [(first, last)] :=
    List.mem_append_right _ (List.mem_singleton_self _)
  have bounds := sectioning.bounds (first, last) lastPresent
  have ends := sectioning.ends (first, last) lastPresent
  have final := hasContent_length lines content
  have kept (number : Nat) (present : HasContent lines number) := present.concat line
  obtain ⟨earlierPairwise, _, cross⟩ := List.pairwise_append.mp sectioning.pairwise
  have old : ∀ extent ∈ earlier, extent ∈ earlier ++ [(first, last)] :=
    fun extent present => List.mem_append_left _ present
  simp only at bounds ends
  apply of_pairwise
  · intro extent present
    rcases List.mem_append.mp present with former | new
    · exact (sectioning.bounds extent (old extent former)).1
    · rw [List.mem_singleton.mp new]
      simp only
      omega
  · intro extent present
    rcases List.mem_append.mp present with former | new
    · have formerEnds := sectioning.ends extent (old extent former)
      exact ⟨kept _ formerEnds.1, kept _ formerEnds.2⟩
    · exact List.mem_singleton.mp new ▸ ⟨kept _ ends.1, final⟩
  · intro number present
    rcases (hasContent_concat lines line number).mp present with former | ⟨rfl, _⟩
    · obtain ⟨extent, ⟨member, covered⟩, _⟩ := sectioning.covers number former
      rcases List.mem_append.mp member with inEarlier | isLast
      · exact ⟨extent, List.mem_append_left _ inEarlier, covered⟩
      · rw [List.mem_singleton.mp isLast] at covered
        refine ⟨(first, lines.length), List.mem_append_right _ (List.mem_singleton_self _), ?_⟩
        exact ⟨covered.1, Nat.le_of_lt former.lt_length⟩
    · exact ⟨(first, lines.length), List.mem_append_right _ (List.mem_singleton_self _),
        by simp only [Covers]; omega⟩
  · intro extent present number covered coveredNext
    rcases List.mem_append.mp present with former | new
    · exact (sectioning.tight extent (old extent former) number covered coveredNext).imp
        (kept _) (kept _)
    · rw [List.mem_singleton.mp new] at covered coveredNext
      exact sectioning.tight_extended content near covered.1 coveredNext.2
  · rw [List.pairwise_append]
    refine ⟨earlierPairwise, List.pairwise_singleton _ _, fun extent former other new => ?_⟩
    have precedes := cross extent former (first, last) (List.mem_singleton_self _)
    rw [List.mem_singleton.mp new]
    unfold Precedes at precedes ⊢
    simp only at precedes ⊢
    omega

end IsSectioning

/-! ## The scan -/

/-- The scan makes a sectioning of the lines before into one of all lines. -/
theorem isSectioning_scan
    (before rest : List Line)
    (current : Option Extent)
    (closed : List Extent)
    (opened : current = none → closed = [])
    (sectioning : IsSectioning before (current.toList ++ closed).reverse) :
    IsSectioning (before ++ rest) (scan before.length current closed rest) := by
  induction rest generalizing before current closed with
  | nil => simpa [scan] using sectioning
  | cons line rest inductionHypothesis =>
      have whole : before ++ line :: rest = (before ++ [line]) ++ rest := by simp
      have next : before.length + 1 = (before ++ [line]).length := by simp
      rw [whole]
      cases blank : line.isBlank with
      | true =>
          have skipped : scan before.length current closed (line :: rest) =
              scan (before.length + 1) current closed rest := by
            cases current <;> simp [scan, blank]
          rw [skipped, next]
          exact inductionHypothesis (before ++ [line]) current closed opened
            (sectioning.concat_blank blank)
      | false =>
          cases current with
          | none =>
              obtain rfl := opened rfl
              simp only [scan, blank, Bool.false_eq_true, if_false, next]
              apply inductionHypothesis (before ++ [line]) _ _ (by simp)
              exact sectioning.concat_start blank (by simp)
          | some extent =>
              obtain ⟨first, last⟩ := extent
              have reversed : ((some (first, last)).toList ++ closed).reverse =
                  closed.reverse ++ [(first, last)] := by
                simp
              rw [reversed] at sectioning
              simp only [scan, blank, Bool.false_eq_true, if_false, gap, next]
              split
              · rename_i far
                have started := sectioning.concat_start blank
                  (sectioning.far_of_far_last (by omega))
                apply inductionHypothesis (before ++ [line]) _ _ (by simp)
                simpa using started
              · rename_i near
                have extended := sectioning.concat_extend blank (by omega)
                apply inductionHypothesis (before ++ [line]) _ _ (by simp)
                simpa using extended

/-- The sections that the scan finds are a sectioning. -/
theorem isSectioning_extents (lines : List Line) : IsSectioning lines (extents lines) := by
  have empty : IsSectioning [] ((none : Option Extent).toList ++ []).reverse := by
    apply IsSectioning.of_pairwise <;> simp [HasContent]
  exact isSectioning_scan [] lines none [] (fun _ => rfl) empty

/-- The sections of some lines are their only sectioning.  Between consecutive sections all
lines are blank; blank lines before all content or after it belong to no section; a single
blank line between two lines with content lies in one section with both; and two adjacent
blank lines belong to no section, nor does any section have lines on both sides of them. -/
theorem extents_unique (lines : List Line) :
    (∀ sections, IsSectioning lines sections ↔ sections = extents lines) ∧
      (extents lines).IsChain (fun first second =>
        ∀ number, first.2 < number → number < second.1 → ¬HasContent lines number) ∧
      (∀ number, (∀ other ≤ number, ¬HasContent lines other) →
        ∀ extent ∈ extents lines, ¬Covers extent number) ∧
      (∀ number, (∀ other, number ≤ other → ¬HasContent lines other) →
        ∀ extent ∈ extents lines, ¬Covers extent number) ∧
      (∀ number, HasContent lines number → HasContent lines (number + 2) →
        ∃ extent ∈ extents lines, Covers extent number ∧ Covers extent (number + 2)) ∧
      ∀ number, ¬HasContent lines number → ¬HasContent lines (number + 1) →
        ∀ extent ∈ extents lines, extent.2 < number ∨ number + 1 < extent.1 := by
  have sectioning := isSectioning_extents lines
  refine ⟨fun sections => ⟨sectioning.unique, fun same => same ▸ sectioning⟩,
    sectioning.blank_between, ?_, ?_, ?_, ?_⟩
  · intro number leading extent present covered
    exact leading extent.1 covered.1 (sectioning.ends extent present).1
  · intro number trailing extent present covered
    exact trailing extent.2 covered.2 (sectioning.ends extent present).2
  · intro number content contentLater
    obtain ⟨extent, ⟨present, covered⟩, _⟩ := sectioning.covers number content
    have bounds := sectioning.bounds extent present
    have coveredLater := sectioning.covers_of_near present contentLater
      (by unfold Covers at covered; omega) (by unfold Covers at covered; omega)
    exact ⟨extent, present, covered, coveredLater⟩
  · intro number blank blankNext extent present
    by_contra across
    have ends := sectioning.ends extent present
    have startDiffers : extent.1 ≠ number + 1 := fun same => blankNext (same ▸ ends.1)
    have stopDiffers : extent.2 ≠ number := fun same => blank (same ▸ ends.2)
    rcases sectioning.tight extent present number ⟨by omega, by omega⟩ ⟨by omega, by omega⟩ with
      content | content
    · exact blank content
    · exact blankNext content

end Section
end Snippets
