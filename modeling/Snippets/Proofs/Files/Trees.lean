import Snippets.Files.Tree

/-!
# Trees within trees

A tree lies within another one if all that is found in it is found there too.  A path that leads
somewhere in a tree leads to the same names in every tree that the tree lies within, since on its
way it meets directories and links that are there as well.  So taking a file out of a tree leads
no path to another place.
-/

namespace Snippets
namespace FileTree

/-- Whether all that is found in a tree is found in another one too. -/
def Within (inner outer : FileTree) : Prop :=
  ∀ names node, inner.node? names = some node → outer.node? names = some node

theorem Within.refl (tree : FileTree) : tree.Within tree :=
  fun _ _ found => found

/-! ## Single changes -/

theorem lookup_filter_ne (names other : List String) (nodes : List (List String × FileNode)) :
    (nodes.filter fun entry => entry.1 != names).lookup other =
      if other = names then none else nodes.lookup other := by
  induction nodes with
  | nil => simp
  | cons entry nodes inductionHypothesis =>
      obtain ⟨place, node⟩ := entry
      rw [List.filter_cons, List.lookup_cons]
      by_cases removed : place = names
      · subst removed
        simp only [bne_self_eq_false, Bool.false_eq_true, if_false, inductionHypothesis]
        by_cases same : other = place
        · simp [same]
        · simp [same, beq_eq_false_iff_ne.mpr same]
      · have kept : (place != names) = true := by simp [removed]
        rw [if_pos kept, List.lookup_cons, inductionHypothesis]
        by_cases found : other = place
        · subst found
          simp [removed]
        · simp [beq_eq_false_iff_ne.mpr found]

theorem node?_remove (tree : FileTree) {names : List String} (notRoot : names ≠ [])
    (other : List String) :
    (tree.remove names).node? other = if other = names then none else tree.node? other := by
  unfold node? remove
  by_cases root : other = []
  · simp [root, notRoot.symm]
  · simp only [root, if_false, lookup_filter_ne]

theorem node?_put (tree : FileTree) {names : List String} (notRoot : names ≠ [])
    (node : FileNode) (other : List String) :
    (tree.put names node).node? other = if other = names then some node else tree.node? other := by
  by_cases root : other = []
  · simp [node?, root, notRoot.symm]
  · have removed := tree.node?_remove notRoot other
    simp only [node?, root, if_false] at removed ⊢
    rw [put, List.lookup_append, removed]
    by_cases same : other = names
    · simp [same]
    · rw [if_neg same, if_neg same, List.lookup_cons, beq_eq_false_iff_ne.mpr same]
      exact Option.or_none

theorem ne_nil_of_node?_eq_none
    {tree : FileTree}
    {names : List String}
    (nothing : tree.node? names = none) :
    names ≠ [] := by
  rintro rfl
  simp [node?] at nothing

theorem remove_put (tree : FileTree) (names : List String) (node : FileNode) :
    (tree.put names node).remove names = tree.remove names := by
  simp [put, remove]

theorem remove_of_node?_eq_none
    {tree : FileTree}
    {names : List String}
    (nothing : tree.node? names = none) :
    tree.remove names = tree := by
  have absent : tree.nodes.lookup names = none := by
    simpa [node?, ne_nil_of_node?_eq_none nothing] using nothing
  rw [List.lookup_eq_none_iff] at absent
  have kept : (tree.nodes.filter fun entry => entry.1 != names) = tree.nodes :=
    List.filter_eq_self.mpr fun entry present =>
      bne_iff_ne.mpr (bne_iff_ne.mp (absent entry present)).symm
  rw [remove, kept]

theorem within_remove
    {tree : FileTree}
    {names : List String}
    (notRoot : names ≠ []) :
    (tree.remove names).Within tree := by
  intro other node found
  rw [node?_remove tree notRoot] at found
  split at found
  · cases found
  · exact found

theorem within_put
    {tree : FileTree}
    {names : List String}
    (nothing : tree.node? names = none)
    (node : FileNode) :
    tree.Within (tree.put names node) := by
  intro other there found
  rw [node?_put tree (ne_nil_of_node?_eq_none nothing)]
  split
  · rename_i same
    rw [same, nothing] at found
    cases found
  · exact found

/-! ## Paths -/

section

variable {inner outer : FileTree} {directory names place : List String}

theorem Within.followLinks
    (within : inner.Within outer)
    {links : Nat}
    (found : inner.followLinks links directory names = .ok place) :
    outer.followLinks links directory names = .ok place := by
  fun_induction inner.followLinks links directory names with
  | case1 => simpa [FileTree.followLinks] using found
  | case2 links directory name rest traits isDirectory isDot inductionHypothesis =>
      rw [FileTree.followLinks, within _ _ isDirectory]
      simpa [isDot] using inductionHypothesis found
  | case3 links directory rest traits isDirectory noDot inductionHypothesis =>
      rw [FileTree.followLinks, within _ _ isDirectory]
      simpa using inductionHypothesis found
  | case4 => cases found
  | case5 => cases found
  | case6 => cases found
  | case7 directory name rest traits isDirectory noDot noDots short target linkTraits isLink links
      inductionHypothesis =>
      rw [FileTree.followLinks, within _ _ isDirectory]
      simp only [noDot, noDots, short, if_false, within _ _ isLink]
      exact inductionHypothesis found
  | case8 links directory name rest traits isDirectory noDot noDots short node noLink isNode
      inductionHypothesis =>
      rw [FileTree.followLinks, within _ _ isDirectory]
      simp only [noDot, noDots, short, if_false, within _ _ isNode]
      exact inductionHypothesis found
  | case9 => cases found
  | case10 => cases found

theorem Within.locate
    (within : inner.Within outer)
    {text : String}
    (found : inner.locate directory text = .ok place) :
    outer.locate directory text = .ok place := by
  unfold FileTree.locate at found ⊢
  split at found
  · cases found
  · exact within.followLinks found

/-- A path leads to the same place in every tree that the tree lies within. -/
theorem Within.placeSelf
    (within : inner.Within outer)
    {text : String}
    (found : inner.placeSelf directory text = .ok place) :
    outer.placeSelf directory text = .ok place := by
  unfold FileTree.placeSelf at found ⊢
  split at found
  · exact within.locate found
  · split at found
    · rename_i isDot
      rw [if_pos isDot]
      exact within.locate found
    · rename_i noDot
      rw [if_neg noDot]
      split at found
      · cases found
      · rename_i short
        rw [if_neg short]
        split at found
        · cases found
        · split at found
          · cases found
          · rename_i parent followed
            simp only [FileTree.follow, within.followLinks followed]
            split at found
            · rename_i traits isDirectory
              simp only [within _ _ isDirectory]
              exact found
            · cases found
            · cases found

end

end FileTree
end Snippets
