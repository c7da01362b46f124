-- SUMMARY: A log that was set up takes the next record exactly if its path can be that of a file and the directory above is open; otherwise every record that goes there is dropped.
import HostBoundary.Proofs.Files.Paths
import HostBoundary.Proofs.Session.Steps

/-!
# Accepted logs

When a log is set up, the directory above it is made and an old file is removed, but no file is opened. The
first record makes the file, if the path can be that of a file and the directory above it is open. A log is
accepted without that. Where the directory is closed and no file is there, nothing has to be removed, so
nothing is noticed. There are paths, too, at which nothing is found when the log is set up and no file can
ever be made: a path that ends in a slash, for one. Each record that goes to such a log is dropped.
-/

namespace HostBoundary

/-- The directory in which a path leads to a file is open. -/
def FileTree.IsOpenAbove (tree : FileTree) (path : String) : Prop :=
  ∀ place, tree.LeadsTo (.ofPath path) place → tree.closed.get? (above place) = none

namespace Session

open FileTree

variable {s t : Session} {path : String} {place : List String}

/-! ## Where a log is accepted -/

/-- Where a log is accepted, the directory above it was made, and it has stayed since. -/
theorem makeDirectories_of_moveLog (h : (moveLog path s).reply = .ok ()) :
    (s.files.makeDirectories (.ofPath (Location.parentPath path))).2 = .ok () ∧
      KeepsDirectories (s.files.makeDirectories (.ofPath (Location.parentPath path))).1
        (moveLog path s).session.files := by
  unfold moveLog at h ⊢
  dsimp only at h ⊢
  split at h
  · cases h
  · next files hmake =>
    rw [hmake]
    dsimp only
    split at h
    · exact ⟨rfl, .refl files⟩
    · split at h
      · cases h
      · next next hremove =>
        exact ⟨rfl, keepsDirectories_of_remove_eq_ok hremove⟩

/-- The second session is left by setting a log up at a path in the first. Nothing is left at the place of the
log, and there is such a place if the path can be that of a file. -/
structure AcceptedAt (path : String) (s t : Session) : Prop where
  clock : t.clock = s.clock
  logPath : t.logPath = some path
  anew : ∀ place, t.files.LeadsTo (.ofPath path) place → t.files.at? place = none
  reached : Location.IsFilePath path → ∃ place, t.files.LeadsTo (.ofPath path) place

theorem acceptedAt_moveLog (h : (moveLog path s).reply = .ok ()) :
    AcceptedAt path s (moveLog path s).session := by
  obtain ⟨hmade, hkeeps⟩ := makeDirectories_of_moveLog h
  have hreached (hpath : Location.IsFilePath path) :
      ∃ place, (moveLog path s).session.files.LeadsTo (.ofPath path) place := by
    obtain ⟨place, hplace⟩ := exists_leadsTo_of_makeDirectories hpath hmade
    exact ⟨place, hkeeps.leadsTo hplace⟩
  obtain ⟨files, hsetUp, heq⟩ | ⟨files, e, -, heq⟩ := moveLog_cases path s
  · rw [heq] at hreached ⊢
    exact ⟨rfl, rfl, hsetUp.anew path rfl, hreached⟩
  · rw [heq] at h
    cases h

theorem acceptedAt_configureLog {level : Nat}
    (h : (configureLog level (some path) s).reply = .ok ()) :
    AcceptedAt path s (configureLog level (some path) s).session := by
  have hmove : configureLog level (some path) s = moveLog path { s with verbosity := level } :=
    Action.bind_eq_of_silent rfl
  rw [hmove] at h ⊢
  obtain ⟨hclock, hlogPath, hanew, hreached⟩ := acceptedAt_moveLog h
  exact ⟨hclock, hlogPath, hanew, hreached⟩

/-! ## The next record -/

/-- Where the log goes to a path at which no file can be made, a record changes nothing. -/
theorem recorded_eq_self (hpath : ¬ Location.IsFilePath path) (h : s.logPath = some path)
    (source message : String) : s.recorded source message = s := by
  refine recordAll_eq_self (fun place hlogs hwritable => ?_) [⟨source, message⟩]
  obtain ⟨same, hsame, hleads⟩ := hlogs
  cases Option.mem_unique h hsame
  exact absurd (at?_of_not_isFilePath hpath hleads) hwritable.at?_ne_directory

namespace AcceptedAt

/-- The first record can be written if the directory above the log is open. -/
theorem writable_iff (h : AcceptedAt path s t) (hleads : t.files.LeadsTo (.ofPath path) place) :
    t.files.Writable place ↔ t.files.closed.get? (above place) = none :=
  writable_iff_of_none (h.anew place hleads)

theorem read?_eq_none (h : AcceptedAt path s t) : t.files.read? (.ofPath path) = none := by
  by_contra hread
  obtain ⟨content, hcontent⟩ := Option.ne_none_iff_exists'.mp hread
  obtain ⟨place, hleads, hat⟩ := leadsTo_of_read?_eq_some hcontent
  cases (h.anew place hleads).symm.trans hat

theorem read?_recordAll (h : AcceptedAt path s t) (hpath : Location.IsFilePath path)
    (hopen : t.files.IsOpenAbove path) (r : LogRecord) :
    (t.recordAll [r]).files.read? (.ofPath path) = some (r.line s.clock) := by
  obtain ⟨place, hleads⟩ := h.reached hpath
  have hlogs : t.LogsTo place := ⟨path, h.logPath, hleads⟩
  have hwritable := (h.writable_iff hleads).mpr (hopen place hleads)
  rw [read?_of_leadsTo ((keepsLog_recordAll t [r]).leadsTo_iff.mpr hleads),
    contentAt?_recordAll_of_logsTo [r] hlogs hwritable, contentAt?_of_none (h.anew place hleads), h.clock]
  simp only [contentWith, List.map_cons, List.map_nil, List.foldl_cons, List.foldl_nil, Option.getD_none,
    String.empty_append]

/-- If no file can be made at the path, or not in the directory above it, all records are dropped. -/
theorem recordAll_eq_self (h : AcceptedAt path s t)
    (hnot : ¬ (Location.IsFilePath path ∧ t.files.IsOpenAbove path)) (records : List LogRecord) :
    t.recordAll records = t := by
  refine Session.recordAll_eq_self (fun place hlogs hwritable => ?_) records
  obtain ⟨same, hsame, hleads⟩ := hlogs
  cases Option.mem_unique h.logPath hsame
  refine hnot ⟨?_, fun other hother => ?_⟩
  · by_contra hpath
    exact hwritable.at?_ne_directory (at?_of_not_isFilePath hpath hleads)
  · cases hleads.eq hother
    exact (h.writable_iff hleads).mp hwritable

end AcceptedAt

theorem after_configureLog_record (s : Session) (level : Nat) (path : Option String)
    (source message : String) :
    s.after [.configureLog level path, .record source message] =
      (configureLog level path s).session.recordAll [⟨source, message⟩] := rfl

/-- If a log is accepted, the next record leaves a file there that holds the line of that record and nothing
else, exactly if the path can be that of a file and the directory above it is open. Otherwise there is no file
at the path, and as many records as may follow change nothing. If the path cannot be that of a file, there is
no file at it in any tree, and each record that goes there is dropped in any session. -/
theorem accepted_log_takes_record_iff (s : Session) (level : Nat) (path source message : String)
    (haccepted : (configureLog level (some path) s).reply = .ok ()) :
    let t := (configureLog level (some path) s).session
    ((s.after [.configureLog level (some path), .record source message]).files.read? (.ofPath path) =
        some ("[" ++ s.clock ++ "] [" ++ source ++ "] " ++ message ++ "\n") ↔
      Location.IsFilePath path ∧ t.files.IsOpenAbove path) ∧
      (¬ (Location.IsFilePath path ∧ t.files.IsOpenAbove path) →
        t.files.read? (.ofPath path) = none ∧ ∀ records, t.recordAll records = t) ∧
      (¬ Location.IsFilePath path → (∀ tree : FileTree, tree.read? (.ofPath path) = none) ∧
        ∀ u : Session, u.logPath = some path → u.recorded source message = u) := by
  intro t
  have haccepted : AcceptedAt path s t := acceptedAt_configureLog haccepted
  have hrun : s.after [.configureLog level (some path), .record source message] =
      t.recordAll [⟨source, message⟩] := after_configureLog_record s level (some path) source message
  clear_value t
  rw [hrun]
  refine ⟨⟨fun hread => ?_, fun ⟨hpath, hopen⟩ => ?_⟩, fun hnot => ?_, fun hpath => ⟨?_, fun u hu => ?_⟩⟩
  · by_contra hnot
    rw [haccepted.recordAll_eq_self hnot, haccepted.read?_eq_none] at hread
    cases hread
  · exact haccepted.read?_recordAll hpath hopen ⟨source, message⟩
  · exact ⟨haccepted.read?_eq_none, haccepted.recordAll_eq_self hnot⟩
  · exact FileTree.read?_eq_none hpath
  · exact recorded_eq_self hpath hu source message

/-- Nothing is noticed of a closed directory when a log is set up in it, and the record is dropped. -/
example :
    let logs := ["var", "log"]
    let files : FileTree :=
      { nodes := (PlaceMap.empty.set (some .directory) ["var"]).set (some .directory) logs
        closed := .set (some .denied) logs .empty }
    let s : Session := { clock := "now", files }
    (configureLog 0 (some "/var/log/run.log") s).reply = .ok () ∧
      (s.after [.configureLog 0 (some "/var/log/run.log"), .record "HOST" "lost"]).files.read?
        (.ofPath "/var/log/run.log") = none := by
  decide +kernel

/-- A session with a file from an earlier run. -/
def usedBefore : Session :=
  ({ clock := "now" } : Session).after [.makeDirectories "logs", .writeFile "logs/run.log" "old"]

/-- A log that is set up over an old file holds one line after one record. -/
theorem usedBefore_takes_record :
    (configureLog 1 (some "logs/run.log") usedBefore).reply = .ok () ∧
      (usedBefore.after [.configureLog 1 (some "logs/run.log"), .record "HOST" "kept"]).files.read?
          (.ofPath "logs/run.log") = some "[now] [HOST] kept\n" := by
  have haccepted : (configureLog 1 (some "logs/run.log") usedBefore).reply = .ok () := by decide +kernel
  have hpath : Location.IsFilePath "logs/run.log" :=
    ⟨⟨"run.log", by decide +kernel, by decide +kernel⟩, by decide +kernel, by decide +kernel⟩
  have hopen : (configureLog 1 (some "logs/run.log") usedBefore).session.files.IsOpenAbove "logs/run.log" := by
    have hleads : (configureLog 1 (some "logs/run.log") usedBefore).session.files.LeadsTo
        (.ofPath "logs/run.log") ["tmp", "work", "logs", "run.log"] := by decide +kernel
    intro place hplace
    cases hleads.eq hplace
    decide +kernel
  exact ⟨haccepted, ((accepted_log_takes_record_iff usedBefore 1 "logs/run.log" "HOST" "kept"
    haccepted).1.mpr ⟨hpath, hopen⟩).trans (by decide +kernel)⟩

/-- Not every path that is accepted takes records: nothing is at a path that ends in a slash, so there is
nothing to object to, and the record makes no file there. -/
theorem accepted_slash_drops_record :
    let s : Session := { clock := "now" }
    (configureLog 1 (some "logs/") s).reply = .ok () ∧
      (s.after [.configureLog 1 (some "logs/"), .record "HOST" "kept"]).files.read? (.ofPath "logs/") ≠
        some "[now] [HOST] kept\n" := by
  decide +kernel

end Session

end HostBoundary
