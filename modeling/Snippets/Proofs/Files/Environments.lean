import Snippets.Environment
import Snippets.Text.Utf8

/-!
# Files under the root

A name is a part of a path, and it is neither empty nor one of the names made of dots.  A path
from the root with a single name leads to what stands under this name, unless that is a link.
So does the name alone where the root is the working directory.
-/

namespace Snippets

/-! ## Names as paths -/

namespace FileTree

/-- Whether a text can be the name of something in a directory. -/
def IsName (name : String) : Prop :=
  (name ≠ "" ∧ name ≠ "." ∧ name ≠ "..") ∧
    ('/' ∉ name.toList ∧ '\x00' ∉ name.toList) ∧ name.utf8ByteSize ≤ longestName

instance (name : String) : Decidable (IsName name) :=
  inferInstanceAs (Decidable (_ ∧ _))

end FileTree

open FileTree (IsName)

namespace Path

/-- What is left of a text without slashes belongs to the part at hand. -/
theorem partsFrom_of_not_mem
    {rest : List Char}
    (noSlash : '/' ∉ rest)
    (part : List Char)
    (found : List (List Char)) :
    partsFrom part found rest = found.reverse ++ [part.reverse ++ rest] := by
  induction rest generalizing part with
  | nil => simp [partsFrom]
  | cons character rest inductionHypothesis =>
      obtain ⟨differs, later⟩ := not_or.mp fun either => noSlash (List.mem_cons.mpr either)
      rw [partsFrom.eq_3 _ _ _ _ (Ne.symm differs), inductionHypothesis later]
      simp

theorem parts_of_isName {name : String} (isName : IsName name) : parts name = [name] := by
  rw [parts, partsFrom_of_not_mem isName.2.1.1]
  simp

theorem parts_root {name : String} (isName : IsName name) : parts ("/" ++ name) = ["", name] := by
  have characters : ("/" ++ name).toList = '/' :: name.toList := by simp
  rw [parts, characters, partsFrom, partsFrom_of_not_mem isName.2.1.1]
  simp

theorem text_root (name : String) : (Path.mk "/" [name]).text = "/" ++ name := by
  simp [text]

/-- A name alone is read as a relative path. -/
theorem ofText_of_isName {name : String} (isName : IsName name) : ofText name = ⟨"", [name]⟩ := by
  obtain ⟨⟨notEmpty, notHere, -⟩, ⟨noSlash, -⟩, -⟩ := id isName
  have relative : rootOf name.toList = "" := by
    cases characters : name.toList with
    | nil => rfl
    | cons first rest =>
        have differs : first ≠ '/' := fun same => noSlash (by simp [characters, same])
        simp [rootOf, differs]
  rw [ofText, parts_of_isName isName, relative]
  simp [notEmpty, notHere]

end Path

/-! ## What stands under the root -/

/-- A path of one name from the root leads to this name, if something stands there that is no
link. -/
theorem FileTree.locate_root
    {tree : FileTree}
    {name : String}
    (isName : IsName name)
    (noLink : (tree.node? [name]).all (fun node => !node.isLink) = true)
    (directory : List String) :
    tree.locate directory ("/" ++ name) =
      if (tree.node? [name]).isSome then .ok [name] else .error .missing := by
  obtain ⟨⟨notEmpty, notHere, notAbove⟩, ⟨-, valid⟩, short⟩ := id isName
  have characters : ("/" ++ name).toList = '/' :: name.toList := by simp
  have nothingWrong : textFailure? ("/" ++ name) = none := by
    have size : ("/" ++ name).utf8ByteSize = 1 + name.utf8ByteSize := by
      rw [String.utf8ByteSize_append]
      rfl
    have fits : ¬longestPath < 1 + name.utf8ByteSize := by
      unfold longestName at short
      unfold longestPath
      omega
    simp [textFailure?, characters, valid, size, fits]
  have fromRoot : start directory ("/" ++ name) = [] := by simp [start]
  have root : tree.node? [] = some (.directory .directory) := rfl
  rw [locate, nothingWrong, fromRoot, Path.parts_root isName]
  simp only [follow]
  rw [followLinks, root]
  simp only [true_or, if_true]
  rw [followLinks, root]
  simp only [notEmpty, notHere, notAbove, or_self, if_false, Nat.not_lt_of_le short,
    List.nil_append]
  cases found : tree.node? [name] with
  | none => rfl
  | some node =>
      rw [found] at noLink
      cases node with
      | link target traits => cases noLink
      | _ => simp [followLinks]

namespace Environment

variable {environment : Environment} {name : String} {found : Option FileNode}

/-- What stands under a name in the root is found there, unless it is a link. -/
theorem node?_root
    (isName : IsName name)
    (stands : environment.tree.node? [name] = found)
    (noLink : found.all (fun node => !node.isLink) = true) :
    environment.node? ⟨"/", [name]⟩ = .ok found := by
  subst stands
  have located := FileTree.locate_root isName noLink environment.workingDirectory
  rw [node?, FileTree.lookup, Path.text_root, located]
  cases found : environment.tree.node? [name] with
  | none => rfl
  | some node => simp only [Option.isSome_some, if_true, bind, Except.bind, found]

/-- A name alone is resolved under the root, where that is the working directory. -/
theorem resolve_root
    (isName : IsName name)
    (inRoot : environment.workingDirectory = []) :
    environment.resolve ⟨"", [name]⟩ = ⟨"/", [name]⟩ := by
  obtain ⟨⟨-, -, notAbove⟩, -⟩ := isName
  simp [resolve, here, inRoot, Path.append, Path.isAbsolute, Path.collapse, notAbove]

theorem expandHome_of_head?
    (noHome : name.toList.head? ≠ some '~') :
    environment.expandHome ⟨"", [name]⟩ = .ok ⟨"", [name]⟩ := by
  simp [expandHome, noHome]

end Environment

/-- A directory with a shell script of two sections, and a configuration that hides
tables. -/
def scriptEnvironment : Environment where
  tree :=
    ⟨[(["a.sh"], .file (Text.encodeUtf8 "ls\n\n\npwd".toList) .file),
      (["c.yaml"], .file (Text.encodeUtf8 "show_affordance: false".toList) .file)]⟩
  workingDirectory := []
  bindings := []

theorem node?_scriptEnvironment :
    scriptEnvironment.node? ⟨"/", ["c.yaml"]⟩ =
      .ok (some (.file (Text.encodeUtf8 "show_affordance: false".toList) .file)) :=
  Environment.node?_root (by decide) rfl rfl

end Snippets
