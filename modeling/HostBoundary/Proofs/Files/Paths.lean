-- SUMMARY: Paths of files and the directories above them: once the directory above a path is made, the path leads to a place; no file is ever put at a path that ends in a slash or a dot.
import HostBoundary.Proofs.Files.Frame
import Mathlib.Data.List.DropRight

/-!
# Paths of files

A path can be that of a file if a name stands behind its last slash and the system takes the path and that
name. Such a path leads to a place as soon as the directory above it is there, and that is the directory that
the names before the last one lead to. At any other path there never is a file, whatever there is in the tree.
-/

namespace HostBoundary

namespace Location

/-! ## Parts of paths -/

variable {path name : String} {before : List (List Char)} {last : List Char}

/-- The name behind the last slash of a path. Nothing and `.` are no names. -/
def fileName? (path : String) : Option String :=
  ((Text.split '/' path.toList).getLast?.filter isName).map String.ofList

/-- A path can be that of a file: it ends in a name, it has no NUL, and neither is too long. -/
structure IsFilePath (path : String) : Prop where
  named : ∃ name, fileName? path = some name ∧ name.utf8ByteSize ≤ nameLimit
  noZero : '\x00' ∉ path.toList
  short : path.utf8ByteSize ≤ pathLimit

/-- The names with which a path says where to start. -/
def start (path : String) : List String :=
  if path.toList.head? = some '/' then [root]
  else if (Text.split '/' path.toList).head? = some here.toList then [here] else []

/-- The names that count wherever they stand. -/
def innerNames (parts : List (List Char)) : List String := (parts.filter isName).map String.ofList

theorem isName_iff {part : List Char} : isName part = true ↔ part ≠ [] ∧ part ≠ here.toList := by
  simp [isName]

/-- A path has a last part, which may be empty. -/
theorem exists_split_eq_concat (path : String) :
    ∃ before last, Text.split '/' path.toList = before ++ [last] := by
  obtain hnil | ⟨before, last, hparts⟩ := List.eq_nil_or_concat (Text.split '/' path.toList)
  · exact absurd hnil (Text.split_ne_nil _ _)
  · exact ⟨before, last, hparts.trans List.concat_eq_append⟩

theorem fileName?_of_parts (h : Text.split '/' path.toList = before ++ [last]) :
    fileName? path = if isName last then some (String.ofList last) else none := by
  rw [fileName?, h, List.getLast?_concat]
  split
  · next hname => simp [hname]
  · next hname => simp [hname]

theorem isName_of_fileName? (h : fileName? path = some name) : isName name.toList := by
  rw [fileName?, Option.map_eq_some_iff] at h
  obtain ⟨part, hpart, rfl⟩ := h
  rw [String.toList_ofList]
  exact (Option.filter_eq_some_iff.mp hpart).2

theorem start_eq {first : List Char} {later : List (List Char)}
    (h : Text.split '/' path.toList = first :: later) :
    start path =
      if first = [] ∧ later ≠ [] then [root] else if first = here.toList then [here] else [] := by
  simp only [start, h, Text.head?_eq_iff_of_split h, List.head?_cons, Option.some.injEq]

/-! ## The names of a path -/

/-- A dot at the end counts if there are other names. -/
theorem names_eq (h : Text.split '/' path.toList = before ++ [last]) (hlast : last ≠ []) :
    (ofPath path).names = start path ++ innerNames (before ++ [last]) ++
      if innerNames (before ++ [last]) ≠ [] ∧ last = here.toList then [here] else [] := by
  have hnames : (ofPath path).names = start path ++ innerNames (Text.split '/' path.toList) ++
      (if innerNames (Text.split '/' path.toList) ≠ [] ∧
        ((Text.split '/' path.toList).filter (· ≠ [])).getLast? = some here.toList then [here] else []) := rfl
  have hend : ((before ++ [last]).filter (· ≠ [])).getLast? = some last := by
    rw [List.filter_append]
    simp [hlast]
  rw [hnames, h, hend]
  simp only [Option.some.injEq]

theorem names_of_isName (h : Text.split '/' path.toList = before ++ [last]) (hname : isName last) :
    (ofPath path).names = start path ++ innerNames before ++ [String.ofList last] := by
  obtain ⟨hempty, hdot⟩ := isName_iff.mp hname
  rw [names_eq h hempty, if_neg fun hboth => hdot hboth.2, List.append_nil, List.append_assoc]
  simp [innerNames, hname]

theorem wantsDirectory_of_parts (h : Text.split '/' path.toList = before ++ [last]) :
    (ofPath path).wantsDirectory = (last == []) := by
  have hwants : (ofPath path).wantsDirectory =
      ((Text.split '/' path.toList).getLast? == some []) := rfl
  rw [hwants, h, List.getLast?_concat]
  simp

/-- The parts of the path of the directory above a path, from the first to the last name. -/
def partsAbove (before : List (List Char)) : List (List Char) := before.rdropWhile (!isName ·)

theorem parentPath_eq (h : Text.split '/' path.toList = before ++ [last]) (hname : isName last) :
    (partsAbove before = [] → parentPath path = if path.toList.head? = some '/' then root else "") ∧
      (partsAbove before ≠ [] →
        parentPath path = String.ofList (Text.join '/' (partsAbove before))) := by
  have hdrop : ((Text.split '/' path.toList).reverse.dropWhile (!isName ·)).tail = before.reverse := by
    rw [h, List.reverse_append, List.reverse_singleton, List.singleton_append,
      List.dropWhile_cons_of_neg (by simp [hname]), List.tail_cons]
  have habove : (before.reverse.dropWhile (!isName ·)).reverse = partsAbove before := rfl
  rw [parentPath, hdrop, habove]
  constructor
  · intro hnone
    rw [hnone]
    simp [Text.join]
  · intro hsome
    exact if_neg fun hboth => hsome hboth.1

/-- What is left out between the last name and the one before it are no names. -/
theorem innerNames_partsAbove (before : List (List Char)) :
    innerNames (partsAbove before) = innerNames before := by
  have hnone : (before.rtakeWhile (!isName ·)).filter isName = [] := by
    rw [List.filter_eq_nil_iff]
    intro part hpart
    simpa using List.mem_rtakeWhile_imp hpart
  have hbefore : partsAbove before ++ before.rtakeWhile (!isName ·) = before :=
    List.rdropWhile_append_rtakeWhile
  rw [innerNames, innerNames, ← congrArg (List.filter isName) hbefore, List.filter_append, hnone,
    List.append_nil]

/-- The path of the directory above a path starts where the path does, if there is a name in it. -/
theorem start_ofList_join {above rest : List (List Char)} (hne : above ≠ [])
    (hname : isName (above.getLast hne)) (hsplit : Text.split '/' (Text.join '/' above) = above)
    (h : Text.split '/' path.toList = above ++ rest) (hrest : rest ≠ []) :
    start (String.ofList (Text.join '/' above)) = start path := by
  obtain ⟨first, more, rfl⟩ := List.exists_cons_of_ne_nil hne
  have hparts : Text.split '/' (String.ofList (Text.join '/' (first :: more))).toList = first :: more := by
    rw [String.toList_ofList, hsplit]
  have hiff : first = [] ∧ more ≠ [] ↔ first = [] ∧ more ++ rest ≠ [] := by
    refine and_congr_right fun hfirst => iff_of_true ?_ (List.append_ne_nil_of_right_ne_nil more hrest)
    -- An empty part alone would be the last one, which is a name.
    rintro rfl
    rw [List.getLast_singleton, hfirst] at hname
    exact (isName_iff.mp hname).1 rfl
  rw [List.cons_append] at h
  rw [start_eq hparts, start_eq h]
  simp only [hiff]

theorem names_ofList_join {above rest : List (List Char)} (hne : above ≠ [])
    (hname : isName (above.getLast hne)) (h : Text.split '/' path.toList = above ++ rest)
    (hrest : rest ≠ []) :
    (ofPath (String.ofList (Text.join '/' above))).names = start path ++ innerNames above := by
  have hsplit : Text.split '/' (Text.join '/' above) = above := by
    refine Text.split_join hne fun part hpart => ?_
    have hmem : part ∈ Text.split '/' path.toList := h ▸ List.mem_append_left rest hpart
    exact Text.notMem_of_mem_split hmem
  have hparts : Text.split '/' (String.ofList (Text.join '/' above)).toList =
      above.dropLast ++ [above.getLast hne] := by
    rw [String.toList_ofList, hsplit, List.dropLast_append_getLast hne]
  have hinner : innerNames above = innerNames above.dropLast ++ [String.ofList (above.getLast hne)] := by
    conv_lhs => rw [← List.dropLast_append_getLast hne]
    simp [innerNames, hname]
  rw [names_of_isName hparts hname, start_ofList_join hne hname hsplit h hrest, hinner, List.append_assoc]

/-- The names before the last one lead to the directory above a path. It is the one where the path starts
if there is no other name. -/
theorem names_eq_append_parentPath (h : fileName? path = some name) :
    (ofPath path).wantsDirectory = false ∧ ∃ names, (ofPath path).names = names ++ [name] ∧
      (names = (ofPath (parentPath path)).names ∨
        names = [here] ∧ (ofPath (parentPath path)).names = []) := by
  obtain ⟨before, last, hparts⟩ := exists_split_eq_concat path
  rw [fileName?_of_parts hparts] at h
  split at h
  · next hname =>
    cases h
    obtain ⟨hnone, hsome⟩ := parentPath_eq hparts hname
    refine ⟨?_, start path ++ innerNames before, names_of_isName hparts hname, ?_⟩
    · rw [wantsDirectory_of_parts hparts]
      simpa using (isName_iff.mp hname).1
    · by_cases habove : partsAbove before = []
      · have hinner : innerNames before = [] := by
          rw [← innerNames_partsAbove, habove]
          rfl
        rw [hnone habove, hinner, List.append_nil, start]
        split
        · exact .inl rfl
        · split
          · exact .inr ⟨rfl, rfl⟩
          · exact .inl rfl
      · have hjoined : Text.split '/' path.toList =
            partsAbove before ++ (before.rtakeWhile (!isName ·) ++ [last]) := by
          rw [← List.append_assoc, partsAbove, List.rdropWhile_append_rtakeWhile, hparts]
        have hlast : isName ((partsAbove before).getLast habove) := by
          simpa [partsAbove] using List.rdropWhile_last_not (!isName ·) before habove
        rw [hsome habove, names_ofList_join habove hlast hjoined (by simp), innerNames_partsAbove]
        exact .inl rfl
  · cases h

/-- Any other path asks for a directory, or ends in the name of one, or has no names. -/
theorem of_fileName?_eq_none (h : fileName? path = none) :
    (ofPath path).wantsDirectory ∨ (∃ names, (ofPath path).names = names ++ [here]) ∨
      (ofPath path).names = [root] ∨ (ofPath path).names = [] := by
  obtain ⟨before, last, hparts⟩ := exists_split_eq_concat path
  rw [fileName?_of_parts hparts] at h
  split at h
  · cases h
  · next hname =>
    by_cases hempty : last = []
    · left
      rw [wantsDirectory_of_parts hparts, hempty]
      rfl
    · right
      have hdot : last = here.toList := by
        by_contra hne
        exact hname (isName_iff.mpr ⟨hempty, hne⟩)
      have hinner : innerNames (before ++ [last]) = innerNames before := by
        simp [innerNames, hname]
      rw [names_eq hparts hempty, hinner, hdot]
      by_cases hnone : innerNames before = []
      · rw [hnone, if_neg fun hboth => hboth.1 rfl, List.append_nil, List.append_nil, start]
        split
        · exact .inr (.inl rfl)
        · split
          · exact .inl ⟨[], rfl⟩
          · exact .inr (.inr rfl)
      · exact .inl ⟨_, congrArg _ (if_pos ⟨hnone, rfl⟩)⟩

/-! ## What the system takes -/

theorem zero_notMem_start (path : String) : ∀ name ∈ start path, '\x00' ∉ name.toList := by
  unfold start
  split
  · decide
  · split
    · decide
    · exact List.forall_mem_nil _

/-- A NUL stands in a path if it stands in one of its names. -/
theorem exists_zero_mem_names_iff :
    (∃ name ∈ (ofPath path).names, '\x00' ∈ name.toList) ↔ '\x00' ∈ path.toList := by
  have hnames : (ofPath path).names = start path ++ innerNames (Text.split '/' path.toList) ++
      (if innerNames (Text.split '/' path.toList) ≠ [] ∧
        ((Text.split '/' path.toList).filter (· ≠ [])).getLast? = some here.toList then [here] else []) := rfl
  have hne : '\x00' ≠ '/' := by decide
  rw [← Text.exists_mem_split_iff hne, hnames]
  constructor
  · rintro ⟨name, hname, hzero⟩
    rw [List.mem_append, List.mem_append] at hname
    obtain (hname | hname) | hname := hname
    · exact absurd hzero (zero_notMem_start path name hname)
    · obtain ⟨part, hpart, rfl⟩ := List.mem_map.mp hname
      rw [String.toList_ofList] at hzero
      exact ⟨part, (List.mem_filter.mp hpart).1, hzero⟩
    · split at hname
      · cases List.mem_singleton.mp hname
        exact absurd hzero (by decide)
      · cases hname
  · rintro ⟨part, hpart, hzero⟩
    have hname : isName part := by
      refine isName_iff.mpr ⟨List.ne_nil_of_mem hzero, ?_⟩
      rintro rfl
      exact absurd hzero (by decide)
    refine ⟨String.ofList part, ?_, String.toList_ofList.symm ▸ hzero⟩
    refine List.mem_append_left _ (List.mem_append_right _ ?_)
    exact List.mem_map_of_mem (List.mem_filter.mpr ⟨hpart, hname⟩)

theorem fault?_eq_none_iff :
    FileTree.fault? (ofPath path) = none ↔ '\x00' ∉ path.toList ∧ path.utf8ByteSize ≤ pathLimit := by
  have hsize : (ofPath path).size = path.utf8ByteSize := rfl
  have hany : (ofPath path).names.any (·.toList.contains '\x00') = true ↔ '\x00' ∈ path.toList := by
    rw [List.any_eq_true, ← exists_zero_mem_names_iff]
    simp only [List.contains_iff_mem]
  rw [FileTree.fault?, hsize]
  by_cases hzero : '\x00' ∈ path.toList
  · simp only [hany.mpr hzero, if_true, hzero, not_true_eq_false, false_and]
    exact iff_of_false (Option.some_ne_none _) not_false
  · rw [if_neg (mt hany.mp hzero)]
    split
    · next hlong => simp [Nat.not_le.mpr hlong]
    · next hshort => simp [hzero, Nat.not_lt.mp hshort]

end Location

namespace FileTree

open Location

variable {tree : FileTree} {path : String} {place names : List String}

/-! ## Following a path -/

theorem exists_inside {name : String} (hname : isName name.toList) (hsize : name.utf8ByteSize ≤ nameLimit)
    (place : List String) : ∃ found, inside place name = .ok found := by
  have hdot : name ≠ here := by
    rintro rfl
    exact (isName_iff.mp hname).2 rfl
  rw [inside, if_neg hdot]
  split
  · exact ⟨_, rfl⟩
  · split
    · exact ⟨_, rfl⟩
    · rw [if_neg (Nat.not_lt.mpr hsize)]
      exact ⟨_, rfl⟩

/-- The directories above the working directory are there. -/
theorem at?_above_home (h : place <+: tree.home) : tree.at? place = some .directory :=
  if_pos (List.isPrefixOf_iff_prefix.mpr h)

/-- Names lead to directories. -/
theorem at?_of_enter (h : tree.enter tree.home names = .ok place) : tree.at? place = some .directory := by
  suffices ∀ start, tree.at? start = some .directory → tree.enter start names = .ok place →
      tree.at? place = some .directory from this tree.home (at?_above_home List.prefix_rfl) h
  clear h
  induction names with
  | nil =>
    rintro start hstart ⟨rfl⟩
    exact hstart
  | cons name rest ih =>
    intro start _ henter
    rw [enter] at henter
    split at henter
    · cases henter
    · next inner _ =>
      split at henter
      · next hinner => exact ih inner hinner henter
      · cases henter
      · cases henter

/-! ## Spellings of one place -/

/-- A name that stands for an entry of the directory in which it is looked up. -/
def IsEntryName (name : String) : Prop := name ∉ [here, up, root] ∧ name.utf8ByteSize ≤ nameLimit

instance (name : String) : Decidable (IsEntryName name) := inferInstanceAs (Decidable (_ ∧ _))

theorem inside_of_isEntryName {name : String} (h : IsEntryName name) (place : List String) :
    inside place name = .ok (place ++ [name]) := by
  obtain ⟨hname, hsize⟩ := h
  simp only [List.mem_cons, List.not_mem_nil, or_false, not_or] at hname
  rw [inside, if_neg hname.1, if_neg hname.2.1, if_neg hname.2.2, if_neg (Nat.not_lt.mpr hsize)]

theorem enter_append (tree : FileTree) (place names more : List String) :
    tree.enter place (names ++ more) = tree.enter place names >>= fun found => tree.enter found more := by
  induction names generalizing place with
  | nil => rfl
  | cons name rest ih =>
    rw [List.cons_append, enter, enter]
    split
    · rfl
    · split
      · exact ih _
      · rfl
      · rfl

/-- The names of the working directory lead there, from each directory above it on. -/
theorem enter_eq_home (hnames : ∀ name ∈ names, IsEntryName name) (hhome : place ++ names = tree.home) :
    tree.enter place names = .ok tree.home := by
  induction names generalizing place with
  | nil => rw [enter, ← hhome, List.append_nil]
  | cons name rest ih =>
    have hrest : place ++ [name] ++ rest = tree.home := by simpa using hhome
    have hthere : tree.at? (place ++ [name]) = some .directory := at?_above_home ⟨rest, hrest⟩
    rw [enter, inside_of_isEntryName (hnames name List.mem_cons_self)]
    simp only [hthere]
    exact ih (fun other hmem => hnames other (List.mem_cons_of_mem name hmem)) hrest

/-- A path from the working directory leads to the same place as the path that is spelled out from the root. -/
theorem locate_eq_of_spelled_out {location spelled : Location}
    (hhome : ∀ name ∈ tree.home, IsEntryName name) (hfault : fault? spelled = fault? location)
    (hsome : location.names ≠ []) (hspelled : spelled.names = root :: tree.home ++ location.names) :
    tree.locate spelled = tree.locate location := by
  obtain ⟨names, last, hnames⟩ := (List.eq_nil_or_concat location.names).resolve_left hsome
  rw [List.concat_eq_append] at hnames
  cases hfine : fault? location with
  | some e => rw [locate, locate, hfault, hfine]
  | none =>
    have hlong : spelled.names = (root :: tree.home ++ names) ++ [last] := by
      rw [hspelled, hnames, List.append_assoc]
    have hroot : tree.enter tree.home (root :: tree.home) = .ok tree.home := by
      have hthere : tree.at? [] = some .directory := at?_above_home List.nil_prefix
      have hinside : inside tree.home root = .ok [] := rfl
      rw [enter, hinside]
      simp only [hthere]
      exact enter_eq_home hhome rfl
    rw [locate_concat hfine hnames, locate_concat (hfault.trans hfine) hlong, enter_append, hroot]
    rfl

/-! ## No file at other paths -/

/-- A name that is too long leads nowhere. -/
theorem inside_of_lt {name : String} (hname : isName name.toList) (hsize : nameLimit < name.utf8ByteSize)
    (place : List String) : inside place name = .error .nameTooLong := by
  have hdot : name ≠ here := by
    rintro rfl
    exact (isName_iff.mp hname).2 rfl
  have hup : name ≠ up := by
    rintro rfl
    exact absurd hsize (by decide)
  have hroot : name ≠ root := by
    rintro rfl
    exact absurd hsize (by decide)
  rw [inside, if_neg hdot, if_neg hup, if_neg hroot, if_pos hsize]

/-- What is read is in a file at the place that the path leads to. -/
theorem leadsTo_of_read?_eq_some {location : Location} {content : String}
    (h : tree.read? location = some content) :
    ∃ place, tree.LeadsTo location place ∧ tree.at? place = some (.file content) := by
  rw [read?, node?] at h
  cases hlocate : tree.locate location with
  | error e =>
    rw [hlocate] at h
    cases h
  | ok place =>
    rw [hlocate] at h
    dsimp only at h
    cases hat : tree.at? place with
    | none =>
      rw [hat] at h
      cases h
    | some node =>
      rw [hat] at h
      cases node with
      | directory => cases h
      | file found =>
        cases hwants : location.wantsDirectory with
        | true =>
          simp only [hwants] at h
          cases h
        | false =>
          simp only [hwants] at h
          cases h
          exact ⟨place, ⟨hlocate, hwants⟩, hat⟩

/-- A path that cannot be that of a file leads to directories only. -/
theorem at?_of_not_isFilePath (h : ¬ IsFilePath path) (hleads : tree.LeadsTo (.ofPath path) place) :
    tree.at? place = some .directory := by
  obtain ⟨hlocate, hwants⟩ := hleads
  obtain ⟨hfault, names, last, directory, hnames, henter, hinside⟩ := locate_eq_ok_iff.mp hlocate
  obtain ⟨hzero, hshort⟩ := fault?_eq_none_iff.mp hfault
  cases hname : fileName? path with
  | some name =>
    have hsize : nameLimit < name.utf8ByteSize := by
      by_contra hsize
      exact h ⟨⟨name, hname, Nat.not_lt.mp hsize⟩, hzero, hshort⟩
    obtain ⟨-, above, habove, -⟩ := names_eq_append_parentPath hname
    obtain ⟨-, hlast⟩ := List.append_inj' (hnames.symm.trans habove) rfl
    cases hlast
    cases (inside_of_lt (isName_of_fileName? hname) hsize directory).symm.trans hinside
  | none =>
    obtain hdirectory | ⟨above, habove⟩ | hroot | hnone := of_fileName?_eq_none hname
    · exact absurd (hwants.symm.trans hdirectory) Bool.false_ne_true
    · obtain ⟨-, hlast⟩ := List.append_inj' (hnames.symm.trans habove) rfl
      cases hlast
      cases hinside
      exact at?_of_enter henter
    · have habove : (ofPath path).names = [] ++ [root] := hroot
      obtain ⟨-, hlast⟩ := List.append_inj' (hnames.symm.trans habove) rfl
      cases hlast
      cases hinside
      exact at?_above_home List.nil_prefix
    · rw [hnone] at hnames
      exact absurd hnames.symm (by simp)

/-- At a path that cannot be that of a file there is none. -/
theorem read?_eq_none (h : ¬ IsFilePath path) (tree : FileTree) : tree.read? (.ofPath path) = none := by
  by_contra hread
  obtain ⟨content, hcontent⟩ := Option.ne_none_iff_exists'.mp hread
  obtain ⟨place, hleads, hat⟩ := leadsTo_of_read?_eq_some hcontent
  exact absurd (at?_of_not_isFilePath h hleads) (at?_ne_directory_of_file hat)

/-! ## Files in directories that were made -/

/-- The names along which directories were made can be followed. -/
theorem exists_enter_of_makeFrom {made : Bool} (h : (tree.makeFrom made place names).2 = .ok ()) :
    ∃ found, (tree.makeFrom made place names).1.enter place names = .ok found := by
  induction names generalizing tree made place with
  | nil => exact ⟨place, rfl⟩
  | cons name rest ih =>
    rw [makeFrom] at h ⊢
    cases hinside : inside place name with
    | error e =>
      rw [hinside] at h
      cases h
    | ok inner =>
      rw [hinside] at h
      dsimp only at h ⊢
      -- Whatever is made later on, the directory at this name stays.
      have hfollow : ∀ (start : FileTree) (flag : Bool), start.at? inner = some .directory →
          (start.makeFrom flag inner rest).2 = .ok () →
          ∃ found, (start.makeFrom flag inner rest).1.enter place (name :: rest) = .ok found := by
        intro start flag hinner hmake
        obtain ⟨found, hfound⟩ := ih hmake
        have hthere := (makeFrom_keeps start flag inner rest).1.directory inner hinner
        exact ⟨found, by simp only [enter, hinside, hthere, hfound]⟩
      split at h
      · next hat =>
        exact hfollow tree made hat h
      · cases h
      · next hat =>
        split at h
        · cases h
        · next hrest =>
          rw [if_neg hrest]
          split at h
          · cases h
          · refine hfollow _ true ?_ h
            exact (at?_put (isGiven_eq_false (at?_ne_directory_of_none hat)) _).trans (if_pos rfl)

/-- Once the directory above a path is made, the path leads to a place in that directory. -/
theorem exists_leadsTo_of_makeDirectories (hpath : IsFilePath path)
    (h : (tree.makeDirectories (.ofPath (parentPath path))).2 = .ok ()) :
    ∃ place, (tree.makeDirectories (.ofPath (parentPath path))).1.LeadsTo (.ofPath path) place := by
  obtain ⟨name, hname, hsize⟩ := hpath.named
  obtain ⟨hwants, names, hnames, habove⟩ := names_eq_append_parentPath hname
  rw [makeDirectories] at h ⊢
  split at h
  · cases h
  · obtain ⟨directory, henter⟩ : ∃ directory,
        (tree.makeFrom false tree.home (ofPath (parentPath path)).names).1.enter tree.home names =
          .ok directory := by
      obtain hsame | ⟨hnames, hnone⟩ := habove
      · rw [hsame]
        exact exists_enter_of_makeFrom h
      · rw [hnames, hnone]
        exact ⟨tree.home, by simp [makeFrom, enter, inside, at?_above_home List.prefix_rfl]⟩
    obtain ⟨place, hplace⟩ := exists_inside (isName_of_fileName? hname) hsize directory
    have hfault := fault?_eq_none_iff.mpr ⟨hpath.noZero, hpath.short⟩
    have hhome := (makeFrom_keeps tree false tree.home (ofPath (parentPath path)).names).1.home
    refine ⟨place, ?_, hwants⟩
    rw [locate_concat hfault hnames, hhome, henter]
    exact hplace

end FileTree

end HostBoundary
