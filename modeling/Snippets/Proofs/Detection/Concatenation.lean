import Mathlib.Algebra.Group.Nat.Even
import Snippets.Proofs.Detection.FencePairs

/-!
# Lines after other lines

A scan for fences can be cut at any line.  What it finds from there on depends on the lines before
through their number and through the fence that they leave open, and on nothing else.  The main
statement says that lines which are put after others leave the blocks of these alone, and that
their own blocks are found too, further down, if no fence is open where they start.
-/

namespace Snippets

/-- A block a number of lines further down. -/
def Block.shifted (count : Nat) (block : Block) : Block :=
  { block with
    start := block.start + count
    stop := block.stop + count
    anchor := block.anchor + count }

namespace Fence

namespace Scan

/-- The state of a scan after one more line, which has a number. -/
def next (index : Nat) (state : Scan) (line : Line) : Scan :=
  match state with
  | outside => if isFence line.text then inside index line [] else outside
  | inside anchor opening reversed =>
      if isFence line.text then outside else inside anchor opening (line :: reversed)

/-- The state of a scan after more lines, the first of which has a number. -/
def after (index : Nat) (state : Scan) : List Line → Scan
  | [] => state
  | line :: rest => after (index + 1) (state.next index line) rest

/-- A state a number of lines further down. -/
def shifted (count : Nat) : Scan → Scan
  | outside => outside
  | inside anchor opening reversed => inside (anchor + count) opening reversed

/-- Whether no fence is open. -/
def isOutside : Scan → Bool
  | outside => true
  | inside _ _ _ => false

theorem isOutside_next
    (index : Nat)
    (state : Scan)
    (line : Line) :
    (state.next index line).isOutside = (state.isOutside ^^ isFence line.text) := by
  cases state <;> cases fence : isFence line.text <;> simp [next, isOutside, fence]

/-- Every fence that is opened is closed by the next one, so lines change whether one is open if
the number of fences among them is odd. -/
theorem isOutside_after
    (index : Nat)
    (state : Scan)
    (lines : List Line) :
    (state.after index lines).isOutside =
      (state.isOutside == decide (Even (lines.countP fun line => isFence line.text))) := by
  induction lines generalizing index state with
  | nil => cases state <;> simp [after, isOutside]
  | cons line rest inductionHypothesis =>
      rw [after, inductionHypothesis, isOutside_next, List.countP_cons]
      cases isFence line.text with
      | false => simp only [Bool.xor_false, Bool.false_eq_true, if_false, Nat.add_zero]
      | true =>
          simp only [if_true, Nat.even_add_one, decide_not]
          cases state.isOutside <;>
            cases decide (Even (rest.countP fun line => isFence line.text)) <;> rfl

theorem eq_outside_of_isOutside
    {state : Scan}
    (isOutside : state.isOutside = true) :
    state = outside := by
  cases state with
  | outside => rfl
  | inside anchor opening reversed => cases isOutside

end Scan

variable (isSupported : String → Bool)

/-! ## Cutting a scan -/

/-- A scan of some lines goes on with those after them from the state in which it is then. -/
theorem scan_append
    (index : Nat)
    (state : Scan)
    (found : List Block)
    (earlier later : List Line) :
    scan isSupported index state found (earlier ++ later) =
      scan isSupported (index + earlier.length) (state.after index earlier)
        (scan isSupported index state found earlier).reverse later := by
  induction earlier generalizing index state found with
  | nil => simp [scan, Scan.after]
  | cons line earlier inductionHypothesis =>
      have length : index + (line :: earlier).length = index + 1 + earlier.length := by
        rw [List.length_cons]
        omega
      rw [List.cons_append, Scan.after, length]
      cases state with
      | outside =>
          rw [scan, scan, Scan.next]
          split
          · exact inductionHypothesis _ _ _
          · exact inductionHypothesis _ _ _
      | inside anchor opening reversed =>
          rw [scan, scan, Scan.next]
          split
          · exact inductionHypothesis _ _ _
          · exact inductionHypothesis _ _ _

/-- The blocks that are found already come first and have no effect on those found later. -/
theorem scan_eq_append
    (index : Nat)
    (state : Scan)
    (found : List Block)
    (lines : List Line) :
    scan isSupported index state found lines =
      found.reverse ++ scan isSupported index state [] lines := by
  induction lines generalizing index state found with
  | nil => simp [scan]
  | cons line rest inductionHypothesis =>
      cases state with
      | outside =>
          rw [scan, scan]
          split
          · exact inductionHypothesis _ _ _
          · exact inductionHypothesis _ _ _
      | inside anchor opening reversed =>
          rw [scan, scan]
          split
          · rw [inductionHypothesis, inductionHypothesis _ _ (_ ++ []), List.append_nil,
              List.reverse_append, List.append_assoc]
          · exact inductionHypothesis _ _ _

/-- The blocks of some lines are found first, whatever comes after these. -/
theorem blocks_append_eq_scan (earlier later : List Line) :
    blocks isSupported (earlier ++ later) =
      blocks isSupported earlier ++
        scan isSupported earlier.length (Scan.outside.after 0 earlier) [] later := by
  rw [blocks, scan_append, scan_eq_append, List.reverse_reverse, Nat.zero_add, ← blocks]

/-! ## Moving a scan -/

theorem block?_shifted
    (count anchor : Nat)
    (opening : Line)
    (lines : List Line) :
    block? isSupported (anchor + count) opening lines =
      (block? isSupported anchor opening lines).map (Block.shifted count) := by
  unfold block?
  cases openingTag? opening.text with
  | none => rfl
  | some tag =>
      rw [Option.bind_some, Option.bind_some]
      dsimp only
      split
      · rw [Option.map_some, Block.shifted]
        simp only [Option.some.injEq, Block.mk.injEq, Int.natCast_add, and_true]
        omega
      · rfl

/-- A scan that starts a number of lines further down finds the same blocks that number of lines
further down. -/
theorem scan_shifted
    (count index : Nat)
    (state : Scan)
    (found : List Block)
    (lines : List Line) :
    scan isSupported (index + count) (state.shifted count) (found.map (Block.shifted count))
        lines =
      (scan isSupported index state found lines).map (Block.shifted count) := by
  induction lines generalizing index state found with
  | nil => simp [scan]
  | cons line rest inductionHypothesis =>
      have next : index + count + 1 = index + 1 + count := by omega
      cases state with
      | outside =>
          rw [Scan.shifted, scan, scan, next]
          split
          · exact inductionHypothesis _ (.inside index line []) _
          · exact inductionHypothesis _ .outside _
      | inside anchor opening reversed =>
          rw [Scan.shifted, scan, scan, next]
          split
          · rw [← inductionHypothesis, List.map_append, block?_shifted, Option.toList_map]
            rfl
          · exact inductionHypothesis _ (.inside anchor opening (line :: reversed)) _

/-- Where no fence is open, a scan finds the blocks of the lines to come, as far down as it is. -/
theorem scan_outside (count : Nat) (lines : List Line) :
    scan isSupported count .outside [] lines =
      (blocks isSupported lines).map (Block.shifted count) := by
  have moved := scan_shifted isSupported count 0 .outside [] lines
  rwa [Nat.zero_add, Scan.shifted, List.map_nil] at moved

/-- The blocks of some lines stay what they are when others are put after them.  If an even number
of them are fences, the blocks of the others follow, as many lines further down as there are lines
before them. -/
theorem blocks_append (registry : Registry) (earlier later : List Line) :
    blocks registry.contains earlier <+: blocks registry.contains (earlier ++ later) ∧
    (Even (earlier.countP fun line => decide (mark <+: line.text.toList)) →
      blocks registry.contains (earlier ++ later) =
        blocks registry.contains earlier ++
          (blocks registry.contains later).map (Block.shifted earlier.length)) := by
  rw [blocks_append_eq_scan]
  refine ⟨List.prefix_append _ _, fun even => ?_⟩
  simp only [← isFence_eq_decide] at even
  have closed : Scan.outside.after 0 earlier = .outside := by
    refine Scan.eq_outside_of_isOutside ?_
    rw [Scan.isOutside_after, decide_eq_true even, Scan.isOutside, beq_self_eq_true]
  rw [closed, scan_outside]

/-- Lines with two pairs of fences, of which the second makes no block. -/
def closedLines : List Line :=
  [⟨"```sh"⟩, ⟨"ls"⟩, ⟨"```"⟩, ⟨""⟩, ⟨"``` text"⟩, ⟨"```js"⟩]

/-- The statement on lines after others, for a block after lines with two pairs of fences. -/
theorem blocks_append_closed :
    Even (closedLines.countP fun line => decide (mark <+: line.text.toList)) ∧
    blocks Registry.builtin.contains (closedLines ++ [⟨"```py"⟩, ⟨"1"⟩, ⟨"2"⟩, ⟨"```"⟩]) =
      [⟨1, 1, "shellscript", "ls", 0⟩, ⟨7, 8, "python", "1\n2", 6⟩] := by
  have even : Even (closedLines.countP fun line => decide (mark <+: line.text.toList)) := by
    decide +kernel
  refine ⟨even, ((blocks_append Registry.builtin closedLines _).2 even).trans ?_⟩
  decide +kernel

end Fence
end Snippets
