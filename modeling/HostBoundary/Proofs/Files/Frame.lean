-- SUMMARY: What a change of a file tree keeps: directories stay, paths lead where they led, and each change touches the content of at most one file.
import HostBoundary.Files.Tree

/-!
# Changes of file trees

Directories are never removed and the working directory stays, so a path that leads to a place goes on
leading there, whatever is changed. Appending, writing and removing are changes at the place that the path
leads to, where that is possible, and making directories changes no file at all. A file that was written
once can be written again.
-/

namespace HostBoundary

namespace FileTree

variable {tree next : FileTree} {place other names : List String} {location : Location}

theorem contentAt?_of_at?_eq (h : next.at? place = tree.at? other) :
    next.contentAt? place = tree.contentAt? other := by
  rw [contentAt?, h, contentAt?]

theorem contentAt?_of_file {content : String} (h : tree.at? place = some (.file content)) :
    tree.contentAt? place = some content := by
  rw [contentAt?, h]

theorem contentAt?_of_none (h : tree.at? place = none) : tree.contentAt? place = none := by
  rw [contentAt?, h]

theorem contentAt?_of_directory (h : tree.at? place = some .directory) :
    tree.contentAt? place = none := by
  rw [contentAt?, h]

/-! ## Where a path leads -/

theorem locate_concat {last : String} (hfault : fault? location = none)
    (hnames : location.names = names ++ [last]) (tree : FileTree) :
    tree.locate location = tree.enter tree.home names >>= fun directory => inside directory last := by
  rw [locate, hfault, hnames, List.getLast?_concat, List.dropLast_concat]

/-- A path leads to a place in the directory to which all its names but the last lead. -/
theorem locate_eq_ok_iff :
    tree.locate location = .ok place ↔ fault? location = none ∧ ∃ names last directory,
      location.names = names ++ [last] ∧ tree.enter tree.home names = .ok directory ∧
        inside directory last = .ok place := by
  constructor
  · intro h
    rw [locate] at h
    split at h
    · cases h
    · cases h
    · next last hfault hlast =>
      obtain ⟨names, hnames⟩ := List.getLast?_eq_some_iff.mp hlast
      rw [hnames, List.dropLast_concat] at h
      cases henter : tree.enter tree.home names with
      | error e =>
        rw [henter] at h
        cases h
      | ok directory =>
        rw [henter] at h
        exact ⟨hfault, names, last, directory, hnames, henter, h⟩
  · rintro ⟨hfault, names, last, directory, hnames, henter, hinside⟩
    rw [locate_concat hfault hnames, henter]
    exact hinside

/-- A path leads to a place as the path of a file. -/
def LeadsTo (tree : FileTree) (location : Location) (place : List String) : Prop :=
  tree.locate location = .ok place ∧ location.wantsDirectory = false

instance : Decidable (tree.LeadsTo location place) :=
  match h : tree.locate location with
  | .error _ => isFalse fun hleads => nomatch h.symm.trans hleads.1
  | .ok found =>
    if hfound : found = place ∧ location.wantsDirectory = false then
      isTrue ⟨h.trans (congrArg _ hfound.1), hfound.2⟩
    else
      isFalse fun hleads => hfound ⟨Except.ok.inj (h.symm.trans hleads.1), hleads.2⟩

theorem LeadsTo.eq (h : tree.LeadsTo location place) (hother : tree.LeadsTo location other) :
    place = other := Except.ok.inj (h.1.symm.trans hother.1)

/-! ## Directories stay -/

/-- Where the first tree has a directory, so has the second, and the working directory is the same. -/
structure KeepsDirectories (tree next : FileTree) : Prop where
  home : next.home = tree.home
  directory : ∀ place, tree.at? place = some .directory → next.at? place = some .directory

namespace KeepsDirectories

theorem refl (tree : FileTree) : KeepsDirectories tree tree := ⟨rfl, fun _ h => h⟩

theorem trans {last : FileTree} (h : KeepsDirectories tree next) (hlast : KeepsDirectories next last) :
    KeepsDirectories tree last :=
  ⟨hlast.home.trans h.home, fun place hplace => hlast.directory place (h.directory place hplace)⟩

/-- Names that lead through directories lead there still. -/
theorem enter_eq_ok (h : KeepsDirectories tree next) {found : List String}
    (henter : tree.enter place names = .ok found) : next.enter place names = .ok found := by
  induction names generalizing place with
  | nil => exact henter
  | cons name rest ih =>
    rw [enter] at henter ⊢
    split at henter
    · cases henter
    · next inner hinner =>
      split at henter
      · next hdirectory =>
        simp only [h.directory _ hdirectory]
        exact ih henter
      · cases henter
      · cases henter

/-- A path that leads to a place leads there still. -/
theorem locate_eq_ok (h : KeepsDirectories tree next) (hlocate : tree.locate location = .ok place) :
    next.locate location = .ok place := by
  obtain ⟨hfault, names, last, directory, hnames, henter, hinside⟩ := locate_eq_ok_iff.mp hlocate
  have hthere := h.enter_eq_ok henter
  rw [← h.home] at hthere
  exact locate_eq_ok_iff.mpr ⟨hfault, names, last, directory, hnames, hthere, hinside⟩

theorem leadsTo (h : KeepsDirectories tree next) (hleads : tree.LeadsTo location place) :
    next.LeadsTo location place := ⟨h.locate_eq_ok hleads.1, hleads.2⟩

end KeepsDirectories

/-! ## Single places -/

theorem at?_ne_directory_of_none (h : tree.at? place = none) : tree.at? place ≠ some .directory := by
  rw [h]
  intro heq
  cases heq

theorem at?_ne_directory_of_file {content : String} (h : tree.at? place = some (.file content)) :
    tree.at? place ≠ some .directory := by
  rw [h]
  intro heq
  cases heq

/-- The working directory, and what is above it, are directories in every tree. -/
theorem isGiven_eq_false (h : tree.at? place ≠ some .directory) : tree.isGiven place = false := by
  rw [Bool.eq_false_iff]
  intro hgiven
  exact h (if_pos hgiven)

/-- A file that is put where no directory is makes no directory and takes none away. -/
theorem at?_put_file_eq_directory_iff (h : tree.at? place ≠ some .directory) (content : String) :
    (tree.put place (.file content)).at? other = some .directory ↔
      tree.at? other = some .directory := by
  rw [at?_put (isGiven_eq_false h)]
  split
  · next heq =>
    subst heq
    constructor
    · intro hfile
      cases hfile
    · intro hdirectory
      exact absurd hdirectory h
  · rfl

theorem at?_drop_eq_directory_iff (h : tree.at? place ≠ some .directory) :
    (tree.drop place).at? other = some .directory ↔ tree.at? other = some .directory := by
  rw [at?_drop (isGiven_eq_false h)]
  split
  · next heq =>
    subst heq
    constructor
    · intro hnone
      cases hnone
    · intro hdirectory
      exact absurd hdirectory h
  · rfl

theorem contentAt?_put_file (h : tree.at? place ≠ some .directory) (content : String) :
    (tree.put place (.file content)).contentAt? other =
      if place = other then some content else tree.contentAt? other := by
  have hat : (tree.put place (.file content)).at? other =
      if place = other then some (.file content) else tree.at? other :=
    at?_put (isGiven_eq_false h) _
  split
  · next heq => exact contentAt?_of_file (hat.trans (if_pos heq))
  · next hne => exact contentAt?_of_at?_eq (hat.trans (if_neg hne))

theorem contentAt?_drop (h : tree.at? place ≠ some .directory) :
    (tree.drop place).contentAt? other = if place = other then none else tree.contentAt? other := by
  have hat : (tree.drop place).at? other = if place = other then none else tree.at? other :=
    at?_drop (isGiven_eq_false h)
  split
  · next heq => exact contentAt?_of_none (hat.trans (if_pos heq))
  · next hne => exact contentAt?_of_at?_eq (hat.trans (if_neg hne))

/-- A new directory changes no file. -/
theorem contentAt?_put_directory (h : tree.at? place = none) :
    (tree.put place .directory).contentAt? other = tree.contentAt? other := by
  have hgiven := isGiven_eq_false (at?_ne_directory_of_none h)
  have hat : (tree.put place .directory).at? other =
      if place = other then some .directory else tree.at? other := at?_put hgiven _
  by_cases heq : place = other
  · subst heq
    rw [contentAt?_of_none h, contentAt?_of_directory (hat.trans (if_pos rfl))]
  · exact contentAt?_of_at?_eq (hat.trans (if_neg heq))

theorem keepsDirectories_put_directory (h : tree.at? place = none) :
    KeepsDirectories tree (tree.put place .directory) := by
  refine ⟨rfl, fun other hother => ?_⟩
  have hgiven := isGiven_eq_false (at?_ne_directory_of_none h)
  rw [at?_put hgiven]
  split
  · rfl
  · exact hother

/-! ## Making directories -/

/-- Making directories keeps those that there are and changes no file, whether it succeeds or not. -/
theorem makeFrom_keeps (tree : FileTree) (made : Bool) (start names : List String) :
    KeepsDirectories tree (tree.makeFrom made start names).1 ∧
      ∀ place, (tree.makeFrom made start names).1.contentAt? place = tree.contentAt? place := by
  induction names generalizing tree made start with
  | nil => exact ⟨.refl tree, fun _ => rfl⟩
  | cons name rest ih =>
    rw [makeFrom]
    split
    · exact ⟨.refl tree, fun _ => rfl⟩
    · next inner hinner =>
      split
      · exact ih tree made inner
      · exact ⟨.refl tree, fun _ => rfl⟩
      · next hnone =>
        split
        · exact ⟨.refl tree, fun _ => rfl⟩
        · split
          · exact ⟨.refl tree, fun _ => rfl⟩
          · obtain ⟨hkeeps, hcontent⟩ := ih (tree.put inner .directory) true inner
            refine ⟨(keepsDirectories_put_directory hnone).trans hkeeps, ?_⟩
            intro place
            rw [hcontent, contentAt?_put_directory hnone]

theorem makeDirectories_keeps (tree : FileTree) (location : Location) :
    KeepsDirectories tree (tree.makeDirectories location).1 ∧
      ∀ place, (tree.makeDirectories location).1.contentAt? place = tree.contentAt? place := by
  rw [makeDirectories]
  split
  · exact ⟨.refl tree, fun _ => rfl⟩
  · exact makeFrom_keeps tree false tree.home location.names

/-! ## Writing a file -/

/-- A file can be written at a place: no directory is there, and nothing that is closed is in the way. -/
def Writable (tree : FileTree) (place : List String) : Prop := tree.obstacle? false place = none

instance : Decidable (tree.Writable place) := inferInstanceAs (Decidable (tree.obstacle? false place = none))

theorem obstacle?_eq_none_iff {wantsDirectory : Bool} :
    tree.obstacle? wantsDirectory place = none ↔ wantsDirectory = false ∧ tree.Writable place := by
  cases wantsDirectory with
  | false => simp [Writable]
  | true =>
    rw [obstacle?]
    split
    · simp
    · simp
    · simp

theorem Writable.at?_ne_directory (h : tree.Writable place) : tree.at? place ≠ some .directory := by
  intro hdirectory
  rw [Writable, obstacle?, hdirectory] at h
  cases h

/-- A file that is missing can be made if the directory above is open. -/
theorem writable_iff_of_none (h : tree.at? place = none) :
    tree.Writable place ↔ tree.closed.get? (above place) = none := by
  rw [Writable, obstacle?, h]
  simp

/-- What was put at a place is open. -/
theorem writable_put_file (h : tree.at? place ≠ some .directory) (content : String) :
    (tree.put place (.file content)).Writable place := by
  have hat : (tree.put place (.file content)).at? place = some (.file content) :=
    (at?_put (isGiven_eq_false h) _).trans (if_pos rfl)
  have hopen : (tree.put place (.file content)).closed.get? place = none :=
    (PlaceMap.get?_set none place place tree.closed).trans (if_pos rfl)
  rw [Writable, obstacle?, hat]
  exact hopen

/-- A file is changed at the place that the path leads to, exactly if it can be written there. -/
theorem change_eq_ok_iff {f : String → String} :
    tree.change location f = .ok next ↔ ∃ place, tree.LeadsTo location place ∧ tree.Writable place ∧
      next = tree.put place (.file (f ((tree.contentAt? place).getD ""))) := by
  rw [change]
  constructor
  · intro h
    cases hlocate : tree.locate location with
    | error e =>
      rw [hlocate] at h
      cases h
    | ok place =>
      rw [hlocate] at h
      simp only [bind, Except.bind] at h
      split at h
      · cases h
      · next hnone =>
        cases h
        obtain ⟨hwants, hwritable⟩ := obstacle?_eq_none_iff.mp hnone
        exact ⟨place, ⟨hlocate, hwants⟩, hwritable, rfl⟩
  · rintro ⟨place, ⟨hlocate, hwants⟩, hwritable, rfl⟩
    have hnone := obstacle?_eq_none_iff.mpr ⟨hwants, hwritable⟩
    rw [hlocate]
    simp only [bind, Except.bind, hnone]

theorem change_eq_ok (f : String → String) (h : tree.LeadsTo location place) (hfile : tree.Writable place) :
    tree.change location f = .ok (tree.put place (.file (f ((tree.contentAt? place).getD "")))) :=
  change_eq_ok_iff.mpr ⟨place, h, hfile, rfl⟩

/-- Whether the file at a path can be opened for appending. -/
def opens (tree : FileTree) (location : Location) : Bool := (tree.append location "").isOk

/-- A path that can be opened leads to a place at which a file can be written. -/
theorem opens_iff : tree.opens location ↔ ∃ place, tree.LeadsTo location place ∧ tree.Writable place := by
  rw [opens, append]
  constructor
  · intro h
    cases hchange : tree.change location (· ++ "") with
    | error e =>
      rw [hchange] at h
      cases h
    | ok next =>
      obtain ⟨place, hleads, hwritable, -⟩ := change_eq_ok_iff.mp hchange
      exact ⟨place, hleads, hwritable⟩
  · rintro ⟨place, hleads, hwritable⟩
    rw [change_eq_ok _ hleads hwritable]
    rfl

theorem writable_of_opens (h : tree.LeadsTo location place) (hopens : tree.opens location) :
    tree.Writable place := by
  obtain ⟨found, hleads, hwritable⟩ := opens_iff.mp hopens
  cases h.eq hleads
  exact hwritable

theorem keepsDirectories_of_change_eq_ok {f : String → String}
    (h : tree.change location f = .ok next) : KeepsDirectories tree next := by
  obtain ⟨place, -, hwritable, rfl⟩ := change_eq_ok_iff.mp h
  exact ⟨rfl, fun other => (at?_put_file_eq_directory_iff hwritable.at?_ne_directory _).mpr⟩

/-! ## Removing a file -/

theorem of_removalObstacle?_eq_none (h : tree.removalObstacle? location place = none) :
    location.wantsDirectory = false ∧ tree.at? place ≠ some .directory := by
  rw [removalObstacle?] at h
  split at h
  · cases h
  · split at h
    · cases h
    · cases h
  · next content hat =>
    split at h
    · cases h
    · next hwants => exact ⟨Bool.eq_false_iff.mpr hwants, at?_ne_directory_of_file hat⟩

/-- A file that was removed was at the place that the path leads to. -/
theorem leadsTo_of_remove_eq_ok (h : tree.remove location = .ok next) :
    ∃ place, tree.LeadsTo location place ∧ tree.at? place ≠ some .directory ∧
      next = tree.drop place := by
  rw [remove] at h
  cases hlocate : tree.locate location with
  | error e =>
    rw [hlocate] at h
    cases h
  | ok place =>
    rw [hlocate] at h
    simp only [bind, Except.bind] at h
    split at h
    · cases h
    · next hnone =>
      cases h
      obtain ⟨hwants, hfile⟩ := of_removalObstacle?_eq_none hnone
      exact ⟨place, ⟨hlocate, hwants⟩, hfile, rfl⟩

theorem keepsDirectories_of_remove_eq_ok (h : tree.remove location = .ok next) :
    KeepsDirectories tree next := by
  obtain ⟨place, -, hfile, rfl⟩ := leadsTo_of_remove_eq_ok h
  exact ⟨rfl, fun other => (at?_drop_eq_directory_iff hfile).mpr⟩

/-! ## Reading a file -/

/-- What a path of a file leads to is found and read at its place. -/
theorem read?_of_leadsTo (h : tree.LeadsTo location place) :
    tree.read? location = tree.contentAt? place := by
  rw [read?, node?, h.1, contentAt?]
  cases hat : tree.at? place with
  | none => simp only [hat]
  | some node =>
    cases node with
    | file content =>
      simp only [hat, h.2]
      rfl
    | directory => simp only [hat]

end FileTree

end HostBoundary
