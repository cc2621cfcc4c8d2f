import RegisterMachine.FileTree
import Mathlib.Tactic.Common

set_option autoImplicit false
set_option relaxedAutoImplicit false

/-!
# What writing a file leaves alone

Creating the directories that a file needs keeps all paths that lead somewhere, and all files.
Adding to a file changes no other file.

## Main definitions

* `RegisterMachine.FileTree.Extends` — a tree with the same files and at least the same directories.

## Main results

* `RegisterMachine.FileTree.Extends.walk` — paths that lead somewhere lead there still.
* `RegisterMachine.FileTree.extends_makeParents` — creating directories extends a tree.
* `RegisterMachine.FileTree.read?_append_of_ne` — adding to a file changes no other file.
-/

namespace RegisterMachine.FileTree

variable {tree larger : FileTree} {way next : List String} {path other part : String}
  {bytes : List UInt8}

/-! ## Creating directories -/

/-- The tree has the same files as the smaller one, and at least its directories. -/
structure Extends (larger tree : FileTree) : Prop where
  /-- The files are the same. -/
  files_eq : larger.files = tree.files
  /-- All directories are still there. -/
  isDirectory : ∀ way, tree.isDirectory way → larger.isDirectory way

namespace Extends

lemma refl (tree : FileTree) : tree.Extends tree where
  files_eq := rfl
  isDirectory _ h := h

lemma trans {largest : FileTree} (h : largest.Extends larger) (h' : larger.Extends tree) :
    largest.Extends tree where
  files_eq := h.files_eq.trans h'.files_eq
  isDirectory way hway := h.isDirectory way (h'.isDirectory way hway)

/-- A part of a path leads where it led. -/
lemma walkPart (h : larger.Extends tree) (hpart : tree.walkPart way part = some next) :
    larger.walkPart way part = some next := by
  unfold FileTree.walkPart at hpart ⊢
  cases hway : tree.isDirectory way with
  | false => simp [hway] at hpart
  | true => simpa [hway, h.isDirectory way hway] using hpart

/-- **A path that leads somewhere leads there still.** -/
lemma walk (h : larger.Extends tree) (hwalk : tree.walk path = some way) :
    larger.walk path = some way := by
  have hparts : ∀ (parts : List String) (start : List String),
      parts.foldlM tree.walkPart start = some way →
        parts.foldlM larger.walkPart start = some way := by
    intro parts
    induction parts with
    | nil => exact fun _ hstart => hstart
    | cons part parts ih =>
      intro start hstart
      rw [List.foldlM_cons] at hstart ⊢
      obtain ⟨next, hnext, hrest⟩ := Option.bind_eq_some_iff.1 hstart
      exact Option.bind_eq_some_iff.2 ⟨next, h.walkPart hnext, ih next hrest⟩
  unfold FileTree.walk at hwalk ⊢
  split at hwalk
  · cases hwalk
  · next hrelative =>
    rw [if_neg hrelative]
    exact hparts _ _ hwalk

/-- **A file that can be read has the same content.** -/
lemma read? (h : larger.Extends tree) (hread : tree.read? path = some bytes) :
    larger.read? path = some bytes := by
  obtain ⟨way, hwalk, hcontent⟩ := Option.bind_eq_some_iff.1 hread
  refine Option.bind_eq_some_iff.2 ⟨way, h.walk hwalk, ?_⟩
  rw [h.files_eq]
  exact hcontent

end Extends

lemma extends_addDirectory (tree : FileTree) (way : List String) :
    (tree.addDirectory way).Extends tree := by
  unfold addDirectory
  split
  · exact .refl tree
  · refine ⟨rfl, fun other hother => ?_⟩
    simp only [FileTree.isDirectory, Bool.or_eq_true, List.contains_iff_mem,
      List.mem_append] at hother ⊢
    exact hother.imp_right .inl

lemma extends_makeDirectories (tree : FileTree) (names : List String) :
    (tree.makeDirectories names).Extends tree := by
  unfold makeDirectories
  refine List.foldlRecOn (motive := fun state : FileTree × List String => state.1.Extends tree)
    names _ (.refl tree) ?_
  rintro ⟨larger, way⟩ hlarger name -
  dsimp only
  split
  · exact (extends_addDirectory larger _).trans hlarger
  · exact hlarger

/-- **Creating the directories that a file needs extends a tree.** -/
lemma extends_makeParents (tree : FileTree) (path : String) :
    (tree.makeParents path).Extends tree := by
  unfold makeParents
  split
  · exact .refl tree
  · exact extends_makeDirectories tree _

/-! ## Adding to files -/

/-- Adding to a file leaves the content of the others. -/
lemma lookup_appendIn_of_ne {other : List String} (h : other ≠ way)
    (files : List (List String × List UInt8)) :
    (appendIn way bytes files).lookup other = files.lookup other := by
  have hne : (other == way) = false := by simpa using h
  induction files with
  | nil => simp [appendIn, List.lookup_cons, hne]
  | cons file files ih =>
    obtain ⟨first, content⟩ := file
    unfold appendIn
    dsimp only
    split
    · next heq =>
      subst heq
      simp [List.lookup_cons, hne]
    · rw [List.lookup_cons, List.lookup_cons, ih]

/-- **Adding to a file changes no other file**, that is, none to which another way leads. -/
lemma read?_append_of_ne (h : tree.walk path ≠ tree.walk other) :
    (tree.append path bytes).read? other = tree.read? other := by
  unfold append
  split
  · next way hpath =>
    -- where paths lead does not depend on the files
    have hwalk : ∀ files, walk { tree with files } other = tree.walk other := fun _ => rfl
    unfold FileTree.read?
    rw [hwalk]
    cases hother : tree.walk other with
    | none => rfl
    | some way' =>
      refine lookup_appendIn_of_ne (fun heq => h ?_) tree.files
      rw [hpath, hother, heq]
  · rfl

end RegisterMachine.FileTree
