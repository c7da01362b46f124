-- SUMMARY: File trees that differ in the contents of files at most: every operation gives the same in both, contents apart, and leaves such trees.
import HostBoundary.Proofs.Files.Frame
import Mathlib.Data.Option.Defs

/-!
# Trees of the same outline

Which places are taken, whether by a file or by a directory, and which of them are closed decides where a path
leads and whether an operation fails, and how. What the files hold does not. So operations on two trees that
have the same outline succeed or fail alike, and if they put related contents into related files, the contents
stay related.
-/

namespace HostBoundary

/-- Both are directories, or both are files, with related contents. -/
inductive Node.Alike (R : String → String → Prop) : Node → Node → Prop where
  | file {content other : String} (h : R content other) : Alike R (.file content) (.file other)
  | directory : Alike R .directory .directory

namespace FileTree

/-- The same places are taken in both, by nodes that are alike, and the same of them are closed. -/
structure Alike (R : String → String → Prop) (tree other : FileTree) : Prop where
  home : other.home = tree.home
  closed : other.closed = tree.closed
  nodes : ∀ place, Option.Rel (Node.Alike R) (tree.at? place) (other.at? place)

namespace Alike

variable {R : String → String → Prop} {tree other : FileTree}

theorem refl (hR : ∀ content, R content content) (tree : FileTree) : Alike R tree tree := by
  refine ⟨rfl, rfl, fun place => ?_⟩
  cases tree.at? place with
  | none => exact .none
  | some node =>
    cases node with
    | file content => exact .some (.file (hR content))
    | directory => exact .some .directory

/-- What there is at a place in both. -/
theorem cases (h : tree.Alike R other) (place : List String) :
    (tree.at? place = none ∧ other.at? place = none) ∨
      (tree.at? place = some .directory ∧ other.at? place = some .directory) ∨
      ∃ content content', tree.at? place = some (.file content) ∧
        other.at? place = some (.file content') ∧ R content content' := by
  have hplace := h.nodes place
  generalize tree.at? place = node?, other.at? place = node'? at hplace ⊢
  cases hplace with
  | none => exact .inl ⟨rfl, rfl⟩
  | some hnode =>
    cases hnode with
    | file hcontent => exact .inr (.inr ⟨_, _, rfl, rfl, hcontent⟩)
    | directory => exact .inr (.inl ⟨rfl, rfl⟩)

/-! ## Single places -/

theorem isGiven_eq (h : tree.Alike R other) (place : List String) :
    other.isGiven place = tree.isGiven place := by
  rw [isGiven, isGiven, h.home]

theorem put {place : List String} {node node' : Node} (h : tree.Alike R other)
    (hplace : tree.isGiven place = false) (hnode : node.Alike R node') :
    (tree.put place node).Alike R (other.put place node') where
  home := h.home
  closed := congrArg (PlaceMap.set none place) h.closed
  nodes := by
    intro found
    rw [at?_put hplace, at?_put ((h.isGiven_eq place).trans hplace)]
    split
    · exact .some hnode
    · exact h.nodes found

theorem drop {place : List String} (h : tree.Alike R other) (hplace : tree.isGiven place = false) :
    (tree.drop place).Alike R (other.drop place) where
  home := h.home
  closed := congrArg (PlaceMap.set none place) h.closed
  nodes := by
    intro found
    rw [at?_drop hplace, at?_drop ((h.isGiven_eq place).trans hplace)]
    split
    · exact .none
    · exact h.nodes found

/-! ## Looking up -/

theorem enter_eq (h : tree.Alike R other) (place names : List String) :
    tree.enter place names = other.enter place names := by
  induction names generalizing place with
  | nil => rfl
  | cons name rest ih =>
    unfold enter
    split
    · rfl
    · next next hinside =>
      obtain ⟨ha, hb⟩ | ⟨ha, hb⟩ | ⟨content, content', ha, hb, -⟩ := h.cases next
      · simp only [ha, hb]
      · simpa only [ha, hb] using ih next
      · simp only [ha, hb]

theorem locate_eq (h : tree.Alike R other) (location : Location) :
    tree.locate location = other.locate location := by
  unfold locate
  rw [h.enter_eq, h.home]

theorem node? (h : tree.Alike R other) (location : Location) :
    Option.Rel (Node.Alike R) (tree.node? location) (other.node? location) := by
  unfold FileTree.node?
  rw [h.locate_eq]
  split
  · exact .none
  · next place hlocate =>
    obtain ⟨ha, hb⟩ | ⟨ha, hb⟩ | ⟨content, content', ha, hb, hcontent⟩ := h.cases place
    · simp only [ha, hb]
      exact .none
    · simp only [ha, hb]
      exact .some .directory
    · simp only [ha, hb]
      split
      · exact .none
      · exact .some (.file hcontent)

theorem read? (h : tree.Alike R other) (location : Location) :
    Option.Rel R (tree.read? location) (other.read? location) := by
  have hnode := h.node? location
  unfold FileTree.read?
  generalize tree.node? location = node?, other.node? location = node'? at hnode ⊢
  cases hnode with
  | none => exact .none
  | some hfound =>
    cases hfound with
    | file hcontent => exact .some hcontent
    | directory => exact .none

/-! ## Making directories -/

/-- Making directories fails alike, and what was made before stays in both. -/
theorem makeFrom (h : tree.Alike R other) (made : Bool) (place names : List String) :
    (tree.makeFrom made place names).2 = (other.makeFrom made place names).2 ∧
      (tree.makeFrom made place names).1.Alike R (other.makeFrom made place names).1 := by
  induction names generalizing tree other made place with
  | nil => exact ⟨rfl, h⟩
  | cons name rest ih =>
    unfold FileTree.makeFrom
    split
    · exact ⟨rfl, h⟩
    · next next hinside =>
      obtain ⟨ha, hb⟩ | ⟨ha, hb⟩ | ⟨content, content', ha, hb, -⟩ := h.cases next
      · simp only [ha, hb]
        split
        · exact ⟨rfl, h⟩
        · rw [h.closed]
          split
          · exact ⟨rfl, h⟩
          · -- Nothing is there in either tree, so the same directory is made in both.
            have hgiven := isGiven_eq_false (at?_ne_directory_of_none ha)
            exact ih (h.put hgiven .directory) true next
      · simpa only [ha, hb] using ih h made next
      · simp only [ha, hb]
        exact ⟨trivial, h⟩

theorem makeDirectories (h : tree.Alike R other) (location : Location) :
    (tree.makeDirectories location).2 = (other.makeDirectories location).2 ∧
      (tree.makeDirectories location).1.Alike R (other.makeDirectories location).1 := by
  unfold FileTree.makeDirectories
  split
  · exact ⟨rfl, h⟩
  · rw [h.home]
    exact h.makeFrom false tree.home location.names

/-! ## Changing and removing a file -/

/-- Both fail with the same error, or both succeed and leave trees that are alike. -/
inductive Changes (R : String → String → Prop) :
    Except FileError FileTree → Except FileError FileTree → Prop where
  | error (e : FileError) : Changes R (.error e) (.error e)
  | ok {next next' : FileTree} (h : next.Alike R next') : Changes R (.ok next) (.ok next')

theorem obstacle?_eq (h : tree.Alike R other) (wantsDirectory : Bool) (place : List String) :
    tree.obstacle? wantsDirectory place = other.obstacle? wantsDirectory place := by
  unfold obstacle?
  rw [h.closed]
  obtain ⟨ha, hb⟩ | ⟨ha, hb⟩ | ⟨content, content', ha, hb, -⟩ := h.cases place
  · simp only [ha, hb]
  · simp only [ha, hb]
  · simp only [ha, hb]

theorem removalObstacle?_eq (h : tree.Alike R other) (location : Location) (place : List String) :
    tree.removalObstacle? location place = other.removalObstacle? location place := by
  unfold removalObstacle?
  rw [h.closed]
  obtain ⟨ha, hb⟩ | ⟨ha, hb⟩ | ⟨content, content', ha, hb, -⟩ := h.cases place
  · simp only [ha, hb]
  · simp only [ha, hb]
  · simp only [ha, hb]

/-- A change that makes related contents of related contents, and of no content, leaves contents related. -/
theorem change {f g : String → String} (h : tree.Alike R other)
    (hchange : ∀ content content', R content content' → R (f content) (g content'))
    (hnew : R (f "") (g "")) (location : Location) :
    Changes R (tree.change location f) (other.change location g) := by
  unfold FileTree.change
  rw [h.locate_eq]
  cases other.locate location with
  | error e => exact .error e
  | ok place =>
    simp only [bind, Except.bind, ← h.obstacle?_eq]
    split
    · exact .error _
    · next hnone =>
      have hfile := (obstacle?_eq_none_iff.mp hnone).2.at?_ne_directory
      refine .ok (h.put (isGiven_eq_false hfile) (.file ?_))
      obtain ⟨ha, hb⟩ | ⟨ha, -⟩ | ⟨content, content', ha, hb, hcontent⟩ := h.cases place
      · rw [contentAt?_of_none ha, contentAt?_of_none hb]
        exact hnew
      · exact absurd ha hfile
      · rw [contentAt?_of_file ha, contentAt?_of_file hb]
        exact hchange content content' hcontent

theorem write (h : tree.Alike R other) (location : Location) {text : String} (htext : R text text) :
    Changes R (tree.write location text) (other.write location text) :=
  h.change (fun _ _ _ => htext) htext location

theorem remove (h : tree.Alike R other) (location : Location) :
    Changes R (tree.remove location) (other.remove location) := by
  unfold FileTree.remove
  rw [h.locate_eq]
  cases other.locate location with
  | error e => exact .error e
  | ok place =>
    simp only [bind, Except.bind, ← h.removalObstacle?_eq]
    split
    · exact .error _
    · next hnone => exact .ok (h.drop (isGiven_eq_false (of_removalObstacle?_eq_none hnone).2))

end Alike

end FileTree

end HostBoundary
