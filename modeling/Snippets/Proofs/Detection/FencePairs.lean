import Snippets.Detection
import Snippets.Registry

/-!
# Fences in pairs

The code of a block is the text of the lines between its two bounds.  The fences of a document
are paired from the top: the first opens, the second closes, the third opens, and so on.  Each pair
gives a block or none, by the two fences and the lines between them alone, so a pair that gives none
has no effect on the pairs after it.  The main statement says that the scan for fenced blocks finds
the blocks of all pairs and nothing else.
-/

namespace Snippets

/-! ## The text of consecutive lines -/

namespace Document

/-- The text of the lines whose numbers lie between two bounds, both included, with a line
feed between them. -/
def spanText (lines : List Line) (first last : Int) : String :=
  "\n".intercalate
    ((lines.zipIdx.filter fun entry => decide (first ≤ entry.2 ∧ entry.2 ≤ last)).map
      fun entry => entry.1.text)

theorem textOf_eq_intercalate (lines : List Line) :
    textOf lines = "\n".intercalate (lines.map Line.text) := by
  apply String.toList_injective
  rw [textOf, Text.joinLines, String.toList_ofList, String.toList_intercalate]
  rfl

/-- Lines that are chosen by their numbers are what is left of the list after those before
the first number have been dropped and those after the last one cut off. -/
theorem filter_zipIdx_eq_take_drop
    (lines : List Line)
    (offset first last : Nat) :
    ((lines.zipIdx offset).filter fun entry =>
        decide ((first : Int) ≤ entry.2 ∧ (entry.2 : Int) ≤ last)).map Prod.fst =
      (lines.drop (first - offset)).take (last + 1 - max first offset) := by
  induction lines generalizing offset with
  | nil => simp
  | cons line rest inductionHypothesis =>
      rw [List.zipIdx_cons, List.filter_cons]
      by_cases before : offset < first
      · have outside : ¬((first : Int) ≤ offset ∧ (offset : Int) ≤ last) := by omega
        have step : first - offset = first - (offset + 1) + 1 := by omega
        have bound : max first offset = max first (offset + 1) := by omega
        simp only [outside, decide_false, Bool.false_eq_true, if_false]
        rw [inductionHypothesis, step, List.drop_succ_cons, bound]
      · have noDrop : first - offset = 0 := by omega
        have noDropLater : first - (offset + 1) = 0 := by omega
        have bound : max first offset = offset := by omega
        have boundLater : max first (offset + 1) = offset + 1 := by omega
        by_cases within : offset ≤ last
        · have inside : (first : Int) ≤ offset ∧ (offset : Int) ≤ last := by omega
          have step : last + 1 - offset = last + 1 - (offset + 1) + 1 := by omega
          simp only [inside, and_self, decide_true, if_true, List.map_cons]
          rw [inductionHypothesis, noDrop, noDropLater, bound, boundLater, step]
          rfl
        · have outside : ¬((first : Int) ≤ offset ∧ (offset : Int) ≤ last) := by omega
          have nothing : last + 1 - offset = 0 := by omega
          have nothingLater : last + 1 - (offset + 1) = 0 := by omega
          simp only [outside, decide_false, Bool.false_eq_true, if_false]
          rw [inductionHypothesis, noDrop, noDropLater, bound, boundLater, nothing,
            nothingLater]
          rfl

/-- The text of the lines from one number on up to and without another. -/
theorem spanText_eq_textOf
    (lines : List Line)
    (first last : Nat) :
    spanText lines first last = textOf ((lines.drop first).take (last + 1 - first)) := by
  have chosen := filter_zipIdx_eq_take_drop lines 0 first last
  rw [Nat.sub_zero, Nat.max_zero] at chosen
  rw [textOf_eq_intercalate, ← chosen, List.map_map]
  rfl

end Document

namespace Fence

/-! ## Pairs -/

/-- The numbers of the lines that start with three backquotes, where the first line has a
given number. -/
def positionsFrom (offset : Nat) (lines : List Line) : List Nat :=
  ((lines.zipIdx offset).filter fun entry => decide (mark <+: entry.1.text.toList)).map Prod.snd

/-- The numbers of the lines that start with three backquotes. -/
def positions (lines : List Line) : List Nat :=
  positionsFrom 0 lines

/-- The block between an opening fence and a closing fence.  There is one if the opening
fence has a tag, a line stands between the two, and the language of the tag is
supported. -/
def between?
    (isSupported : String → Bool)
    (lines : List Line)
    (opening closing : Nat) : Option Block := do
  let line ← lines[opening]?
  let tag ← openingTag? line.text
  if opening + 2 ≤ closing ∧ isSupported (Language.resolve tag) then
    some {
      start := opening + 1
      stop := closing - 1
      language := Language.resolve tag
      code := Document.spanText lines (opening + 1) (closing - 1)
      anchor := opening }
  else none

/-- The block of a pair of fences.  With fences and pairs numbered from zero, the fences
`2 * number` and `2 * number + 1` make a pair. -/
def pair?
    (isSupported : String → Bool)
    (lines : List Line)
    (fences : List Nat)
    (number : Nat) : Option Block := do
  let opening ← fences[2 * number]?
  let closing ← fences[2 * number + 1]?
  between? isSupported lines opening closing

/-- The blocks between fences that are taken two at a time. -/
def pairBlocks (isSupported : String → Bool) (lines : List Line) : List Nat → List Block
  | opening :: closing :: rest =>
      (between? isSupported lines opening closing).toList ++ pairBlocks isSupported lines rest
  | _ => []

/-! ## Where the fences are -/

theorem isFence_eq_decide (text : String) : isFence text = decide (mark <+: text.toList) := by
  rw [Bool.eq_iff_iff, isFence, info?]
  by_cases isPrefix : mark <+: text.toList
  · simp [isPrefix]
  · simp [isPrefix]

theorem positionsFrom_cons
    (offset : Nat)
    (line : Line)
    (rest : List Line) :
    positionsFrom offset (line :: rest) =
      if isFence line.text then offset :: positionsFrom (offset + 1) rest
      else positionsFrom (offset + 1) rest := by
  rw [positionsFrom, List.zipIdx_cons, List.filter_cons, ← isFence_eq_decide]
  split <;> rfl

theorem le_of_mem_positionsFrom
    {offset index : Nat}
    {lines : List Line}
    (present : index ∈ positionsFrom offset lines) :
    offset ≤ index := by
  obtain ⟨entry, chosen, rfl⟩ := List.mem_map.mp present
  exact (List.mem_zipIdx (List.mem_filter.mp chosen).1).1

/-- The numbers of fences are in ascending order. -/
theorem positionsFrom_ascending (offset : Nat) (lines : List Line) :
    (positionsFrom offset lines).Pairwise (· < ·) := by
  induction lines generalizing offset with
  | nil => exact List.Pairwise.nil
  | cons line rest inductionHypothesis =>
      rw [positionsFrom_cons]
      split
      · refine List.pairwise_cons.mpr ⟨fun index present => ?_, inductionHypothesis (offset + 1)⟩
        exact le_of_mem_positionsFrom present
      · exact inductionHypothesis (offset + 1)

/-- A number is that of a fence if the line of that number starts with three
backquotes. -/
theorem mem_positions_iff (lines : List Line) (index : Nat) :
    index ∈ positions lines ↔
      ∃ line, lines[index]? = some line ∧ mark <+: line.text.toList := by
  simp only [positions, positionsFrom, List.mem_map, List.mem_filter, decide_eq_true_eq]
  constructor
  · rintro ⟨⟨line, number⟩, ⟨present, isPrefix⟩, rfl⟩
    exact ⟨line, List.mk_mem_zipIdx_iff_getElem?.mp present, isPrefix⟩
  · rintro ⟨line, found, isPrefix⟩
    exact ⟨(line, index), ⟨List.mk_mem_zipIdx_iff_getElem?.mpr found, isPrefix⟩, rfl⟩

/-! ## What the scan knows -/

namespace Scan

/-- The number of the fence that waits for its closing fence. -/
def pending : Scan → List Nat
  | outside => []
  | inside anchor _ _ => [anchor]

/-- Whether a state is one in which the scan may be after some lines: an open fence is the
line of its number, and the lines since are those after it. -/
def Follows (before : List Line) : Scan → Prop
  | outside => True
  | inside anchor opening reversed =>
      ∃ earlier, earlier.length = anchor ∧ before = earlier ++ opening :: reversed.reverse

end Scan

/-- The block that the scan makes when a fence closes is the block between the two
fences. -/
theorem block?_eq_between?
    (isSupported : String → Bool)
    (earlier later : List Line)
    (opening : Line)
    (lines : List Line) :
    block? isSupported earlier.length opening lines =
      between? isSupported (earlier ++ opening :: (lines ++ later)) earlier.length
        (earlier.length + 1 + lines.length) := by
  have found : (earlier ++ opening :: (lines ++ later))[earlier.length]? = some opening := by
    simp
  have content : lines ≠ [] ↔ earlier.length + 2 ≤ earlier.length + 1 + lines.length := by
    rw [← List.length_pos_iff]
    omega
  have stop : ((earlier.length + 1 + lines.length : Nat) : Int) - 1 =
      earlier.length + lines.length := by
    omega
  have dropped : (earlier ++ opening :: (lines ++ later)).drop (earlier.length + 1) =
      lines ++ later := by
    simp [← List.drop_drop]
  have count : earlier.length + lines.length + 1 - (earlier.length + 1) = lines.length := by
    omega
  have code : Document.spanText (earlier ++ opening :: (lines ++ later))
      (earlier.length + 1) (earlier.length + lines.length) = Document.textOf lines := by
    have cut := Document.spanText_eq_textOf (earlier ++ opening :: (lines ++ later))
      (earlier.length + 1) (earlier.length + lines.length)
    rw [dropped, count, List.take_left] at cut
    exact_mod_cast cut
  rw [block?, between?, found]
  simp only [Option.bind_eq_bind, Option.bind_some, content, stop, code]

/-- The block that the scan makes when a fence closes lies between the fence that waits for it and
the line after those that were read. -/
theorem block?_of_follows
    (isSupported : String → Bool)
    {before reversed : List Line}
    {anchor : Nat}
    {opening : Line}
    (follows : (Scan.inside anchor opening reversed).Follows before)
    (later : List Line) :
    block? isSupported anchor opening reversed.reverse =
      between? isSupported (before ++ later) anchor before.length := by
  obtain ⟨earlier, rfl, rfl⟩ := follows
  have closing : (earlier ++ opening :: reversed.reverse).length =
      earlier.length + 1 + reversed.reverse.length := by
    simp
    omega
  rw [closing, List.append_assoc, List.cons_append]
  exact block?_eq_between? isSupported earlier later opening reversed.reverse

/-- After any lines, the scan finds the blocks of the pairs that the open fence and the
fences to come make. -/
theorem scan_eq_pairBlocks
    (isSupported : String → Bool)
    (before rest : List Line)
    (state : Scan)
    (found : List Block)
    (follows : state.Follows before) :
    scan isSupported before.length state found rest =
      found.reverse ++ pairBlocks isSupported (before ++ rest)
        (state.pending ++ positionsFrom before.length rest) := by
  induction rest generalizing before state found with
  | nil =>
      cases state with
      | outside => simp [scan, Scan.pending, positionsFrom, pairBlocks]
      | inside anchor opening reversed =>
          simp [scan, Scan.pending, positionsFrom, pairBlocks]
  | cons line rest inductionHypothesis =>
      have whole : before ++ line :: rest = (before ++ [line]) ++ rest := by simp
      have next : before.length + 1 = (before ++ [line]).length := by simp
      rw [positionsFrom_cons, next, whole]
      cases state with
      | outside =>
          rw [scan]
          cases isOpening : isFence line.text with
          | true =>
              simp only [if_true, next]
              exact inductionHypothesis (before ++ [line]) (.inside before.length line []) found
                ⟨before, rfl, rfl⟩
          | false =>
              simp only [Bool.false_eq_true, if_false, next]
              exact inductionHypothesis (before ++ [line]) .outside found trivial
      | inside anchor opening reversed =>
          rw [scan]
          cases isClosing : isFence line.text with
          | true =>
              have block := block?_of_follows isSupported follows (line :: rest)
              have remaining := inductionHypothesis (before ++ [line]) .outside
                ((block? isSupported anchor opening reversed.reverse).toList ++ found) trivial
              simp only [if_true, next]
              rw [remaining, Scan.pending, Scan.pending, List.singleton_append, pairBlocks,
                ← whole, block, List.nil_append, List.reverse_append, List.append_assoc]
              cases between? isSupported _ _ _ <;> rfl
          | false =>
              obtain ⟨earlier, rfl, rfl⟩ := follows
              simp only [Bool.false_eq_true, if_false, next]
              exact inductionHypothesis ((earlier ++ opening :: reversed.reverse) ++ [line])
                (.inside earlier.length opening (line :: reversed)) found
                ⟨earlier, rfl, by simp⟩

/-- Fences that are taken two at a time make the pairs that have a number. -/
theorem pairBlocks_eq_filterMap_pair?
    (isSupported : String → Bool)
    (lines : List Line)
    (fences : List Nat) :
    pairBlocks isSupported lines fences =
      (List.range (fences.length / 2)).filterMap (pair? isSupported lines fences) := by
  induction fences using pairBlocks.induct with
  | case1 opening closing rest inductionHypothesis =>
      have half : (opening :: closing :: rest).length / 2 = rest.length / 2 + 1 := by
        simp only [List.length_cons]
        omega
      have first : pair? isSupported lines (opening :: closing :: rest) 0 =
          between? isSupported lines opening closing := rfl
      have later : pair? isSupported lines (opening :: closing :: rest) ∘ Nat.succ =
          pair? isSupported lines rest := rfl
      rw [pairBlocks, inductionHypothesis, half, List.range_succ_eq_map, List.filterMap_cons,
        List.filterMap_map, first, later]
      cases between? isSupported lines opening closing <;> rfl
  | case2 fences noPair =>
      match fences with
      | [] => rfl
      | [_] => simp [pairBlocks]
      | opening :: closing :: rest => exact absurd rfl (noPair opening closing rest)

theorem blocks_eq_pairBlocks (isSupported : String → Bool) (lines : List Line) :
    blocks isSupported lines = pairBlocks isSupported lines (positions lines) :=
  scan_eq_pairBlocks isSupported [] lines .outside [] trivial

theorem blocks_eq_filterMap_pair? (isSupported : String → Bool) (lines : List Line) :
    blocks isSupported lines =
      (List.range ((positions lines).length / 2)).filterMap
        (pair? isSupported lines (positions lines)) := by
  rw [blocks_eq_pairBlocks, pairBlocks_eq_filterMap_pair?]

/-- The fenced blocks of some lines are those of the pairs of fences, in order.  A fence
without a partner belongs to no pair. -/
theorem blocks_eq_filterMap_pairs (registry : Registry) (lines : List Line) :
    (positions lines).Pairwise (· < ·) ∧
      (∀ index, index ∈ positions lines ↔
        ∃ line, lines[index]? = some line ∧ mark <+: line.text.toList) ∧
      blocks registry.contains lines =
        (List.range ((positions lines).length / 2)).filterMap
          (pair? registry.contains lines (positions lines)) := by
  refine ⟨positionsFrom_ascending 0 lines, mem_positions_iff lines, ?_⟩
  rw [← pairBlocks_eq_filterMap_pair?]
  exact scan_eq_pairBlocks registry.contains [] lines .outside [] trivial

end Fence
end Snippets
