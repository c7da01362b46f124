-- SUMMARY: The records of a step, and what becomes of the files when records are appended to the log.
import HostBoundary.Proofs.Files.Frame
import HostBoundary.Session.Step

/-!
# Records of steps

A step appends its records to the log, in order. Which records these are depends on the step, on whether
the session has a filter and on its advisories. A record adds its line to the file to which the log goes,
if that can be opened, and changes nothing else.
-/

namespace HostBoundary

/-- A message for the log and where it comes from. -/
structure LogRecord where
  source : String
  message : String
  deriving DecidableEq, Repr

namespace LogRecord

/-- The line of the log that a record makes. -/
def line (clock : String) (r : LogRecord) : String :=
  "[" ++ clock ++ "] [" ++ r.source ++ "] " ++ r.message ++ "\n"

/-- The record of a debug message. -/
def debug (message : String) : LogRecord := ⟨"HOST", "DEBUG " ++ message⟩

/-- The record of a warning. -/
def warning (message : String) : LogRecord := ⟨"HOST", "WARN " ++ message⟩

/-- The record of an advisory. -/
def advisory (content : String) : LogRecord := ⟨"DEPRECATION", content⟩

/-- The records of an advisory that is logged only if advisories are on. -/
def advisoryIf (enabled : Bool) (content : String) : List LogRecord :=
  if enabled then [advisory content] else []

/-- The records of a start: a warning if there is a filter already, then that the start is done. -/
def ofStart (filter : Option TraceFilter) (settings : Settings) : List LogRecord :=
  let done := debug ("packhost initialized (verbosity: " ++ toString settings.verbosity ++
    ", deprecation warnings: " ++ toString settings.advisories ++ ")")
  if filter.isSome then
    [warning ("Failed to install tracing subscriber: " ++
      "a global default trace dispatcher has already been set"), done]
  else [done]

end LogRecord

/-- What a start shows: a warning if there is a filter already, then that the start is done, unless the
console is to show warnings only. -/
def Entry.ofStart (filter : Option TraceFilter) (settings : Settings) : List Entry :=
  (if filter.isSome then
    [warning ("Failed to install tracing subscriber: " ++
      "a global default trace dispatcher has already been set")]
  else []) ++
    if 1 ≤ settings.verbosity then
      [debug ("packhost initialized (verbosity: " ++ toString settings.verbosity ++
        ", deprecation warnings: " ++ toString settings.advisories ++ ")")]
    else []

namespace Step

/-- The path that a step names for the log, if the step succeeds to set the log up there. -/
def namedLog? (s : Session) : Step → Option String
  | configureLog level path =>
    match (Session.configureLog level path s).reply with
    | .ok () => path
    | .error _ => none
  | start settings =>
    match (Session.start settings s).reply with
    | .ok () => settings.logFile
    | .error _ => none
  | startFromEnvironment =>
    match (Session.startFromEnvironment s).reply with
    | .ok settings => settings.logFile
    | .error _ => none
  | _ => none

/-- The records of a step that is taken in a session. -/
def records (s : Session) : Step → List LogRecord
  | record source message => [⟨source, message⟩]
  | debug message => [.debug message]
  | warn message => [.warning message]
  | advise content => LogRecord.advisoryIf (s.advisories.getD s.advisoriesNow) content
  | adviseIf enabled content => LogRecord.advisoryIf enabled content
  | start settings =>
    match (Session.start settings s).reply with
    | .ok () => LogRecord.ofStart s.filter settings
    | .error _ => []
  | startFromEnvironment =>
    match (Session.startFromEnvironment s).reply with
    | .ok settings => LogRecord.ofStart s.filter settings
    | .error _ => []
  | _ => []

/-- Whether a step changes files from outside of the session. -/
def isOutside : Step → Bool
  | writeFile _ _ | makeDirectories _ | removeFile _ => true
  | _ => false

/-- A step from outside leaves the file at a place as it is. -/
def Spares (place : List String) (s : Session) (step : Step) : Prop :=
  step.isOutside → (step.run s).session.files.contentAt? place = s.files.contentAt? place

end Step

/-! ## Appending records -/

namespace Session

variable {s t : Session} {place : List String}

/-- The log of a session goes to a place. -/
def LogsTo (s : Session) (place : List String) : Prop :=
  ∃ path ∈ s.logPath, s.files.LeadsTo (.ofPath path) place

instance : Decidable (s.LogsTo place) :=
  inferInstanceAs (Decidable (∃ path ∈ s.logPath, s.files.LeadsTo (.ofPath path) place))

/-- The session with records in its log. -/
def recordAll (s : Session) (records : List LogRecord) : Session :=
  records.foldl (fun s r => s.recorded r.source r.message) s

/-- Records change nothing but files. -/
theorem exists_recordAll_eq (s : Session) (records : List LogRecord) :
    ∃ files, s.recordAll records = { s with files } := by
  induction records generalizing s with
  | nil => exact ⟨s.files, rfl⟩
  | cons r rest ih =>
    have hfirst : ∃ files, s.recorded r.source r.message = { s with files } := by
      unfold recorded
      split
      · exact ⟨s.files, rfl⟩
      · split
        · exact ⟨_, rfl⟩
        · exact ⟨s.files, rfl⟩
    obtain ⟨first, hfirst⟩ := hfirst
    obtain ⟨last, hlast⟩ := ih { s with files := first }
    refine ⟨last, ?_⟩
    unfold recordAll
    rw [List.foldl_cons, hfirst]
    exact hlast

theorem verbosity_recordAll (s : Session) (records : List LogRecord) :
    (s.recordAll records).verbosity = s.verbosity := by
  obtain ⟨files, hfiles⟩ := exists_recordAll_eq s records
  rw [hfiles]

/-- What stays of the log when records are appended. -/
structure KeepsLog (s t : Session) : Prop where
  clock : t.clock = s.clock
  logPath : t.logPath = s.logPath
  home : t.files.home = s.files.home
  directory_iff : ∀ place, t.files.at? place = some .directory ↔ s.files.at? place = some .directory

namespace KeepsLog

theorem refl (s : Session) : KeepsLog s s := ⟨rfl, rfl, rfl, fun _ => Iff.rfl⟩

theorem trans {u : Session} (h : KeepsLog s t) (h' : KeepsLog t u) : KeepsLog s u :=
  ⟨h'.clock.trans h.clock, h'.logPath.trans h.logPath, h'.home.trans h.home,
    fun place => (h'.directory_iff place).trans (h.directory_iff place)⟩

theorem keepsDirectories (h : KeepsLog s t) : s.files.KeepsDirectories t.files :=
  ⟨h.home, fun place => (h.directory_iff place).mpr⟩

theorem leadsTo_iff (h : KeepsLog s t) {location : Location} :
    t.files.LeadsTo location place ↔ s.files.LeadsTo location place := by
  have hfrom : t.files.KeepsDirectories s.files := ⟨h.home.symm, fun place => (h.directory_iff place).mp⟩
  exact ⟨hfrom.leadsTo, h.keepsDirectories.leadsTo⟩

theorem logsTo_iff (h : KeepsLog s t) : t.LogsTo place ↔ s.LogsTo place := by
  rw [LogsTo, LogsTo, h.logPath]
  constructor
  · rintro ⟨path, hpath, hleads⟩
    exact ⟨path, hpath, h.leadsTo_iff.mp hleads⟩
  · rintro ⟨path, hpath, hleads⟩
    exact ⟨path, hpath, h.leadsTo_iff.mpr hleads⟩

end KeepsLog

/-- The log goes to one place at most. -/
theorem LogsTo.eq {other : List String} (h : s.LogsTo place) (hother : s.LogsTo other) :
    place = other := by
  obtain ⟨path, hpath, hleads⟩ := h
  obtain ⟨same, hsame, hleads'⟩ := hother
  cases Option.mem_unique hpath hsame
  exact hleads.eq hleads'

/-- A record is appended to the file to which the log goes. It is dropped if the log goes nowhere or
if no file can be written there. -/
theorem recorded_cases (s : Session) (r : LogRecord) :
    (∃ place, s.LogsTo place ∧ s.files.Writable place ∧
      s.recorded r.source r.message =
        { s with
          files := s.files.put place
            (.file ((s.files.contentAt? place).getD "" ++ r.line s.clock)) }) ∨
      (s.recorded r.source r.message = s ∧ ∀ place, s.LogsTo place → ¬ s.files.Writable place) := by
  cases hpath : s.logPath with
  | none =>
    refine .inr ⟨?_, ?_⟩
    · rw [recorded, hpath]
    · rintro place ⟨path, hmem, -⟩
      rw [hpath] at hmem
      cases hmem
  | some path =>
    cases happend : s.files.append (.ofPath path) (logLine s.clock r.source r.message) with
    | ok files =>
      obtain ⟨place, hleads, hwritable, rfl⟩ := FileTree.change_eq_ok_iff.mp happend
      refine .inl ⟨place, ⟨path, hpath, hleads⟩, hwritable, ?_⟩
      rw [recorded, hpath]
      simp only [happend]
      rfl
    | error e =>
      refine .inr ⟨?_, ?_⟩
      · rw [recorded, hpath]
        simp only [happend]
      · rintro place ⟨same, hmem, hleads⟩ hwritable
        cases Option.mem_unique hpath hmem
        have hfiles := happend.symm.trans (FileTree.change_eq_ok _ hleads hwritable)
        cases hfiles

theorem keepsLog_recorded (s : Session) (r : LogRecord) :
    KeepsLog s (s.recorded r.source r.message) := by
  obtain ⟨place, -, hwritable, heq⟩ | ⟨heq, -⟩ := recorded_cases s r
  · rw [heq]
    exact ⟨rfl, rfl, rfl, fun _ => FileTree.at?_put_file_eq_directory_iff hwritable.at?_ne_directory _⟩
  · rw [heq]
    exact .refl s

theorem keepsLog_recordAll (s : Session) (records : List LogRecord) :
    KeepsLog s (s.recordAll records) := by
  induction records generalizing s with
  | nil => exact .refl s
  | cons r rest ih => exact (keepsLog_recorded s r).trans (ih _)

/-- A record makes no difference to whether the next one can be written. -/
theorem writable_recorded_iff (h : s.LogsTo place) (r : LogRecord) :
    (s.recorded r.source r.message).files.Writable place ↔ s.files.Writable place := by
  obtain ⟨found, hfound, hwritable, heq⟩ | ⟨heq, -⟩ := recorded_cases s r
  · cases hfound.eq h
    rw [heq]
    exact iff_of_true (FileTree.writable_put_file hwritable.at?_ne_directory _) hwritable
  · rw [heq]

theorem writable_recordAll_iff (h : s.LogsTo place) (records : List LogRecord) :
    (s.recordAll records).files.Writable place ↔ s.files.Writable place := by
  induction records generalizing s with
  | nil => exact Iff.rfl
  | cons r rest ih =>
    exact (ih ((keepsLog_recorded s r).logsTo_iff.mpr h)).trans (writable_recorded_iff h r)

/-- The content of a file that had a content, if it was there, after lines were appended one by one. -/
def contentWith (old : Option String) (lines : List String) : Option String :=
  lines.foldl (fun old line => some (old.getD "" ++ line)) old

/-- The lines of the records are appended to the file to which the log goes, if it can be written. -/
theorem contentAt?_recordAll_of_logsTo (records : List LogRecord) (h : s.LogsTo place)
    (hwritable : s.files.Writable place) :
    (s.recordAll records).files.contentAt? place =
      contentWith (s.files.contentAt? place) (records.map (·.line s.clock)) := by
  induction records generalizing s with
  | nil => rfl
  | cons r rest ih =>
    have hkeeps := keepsLog_recorded s r
    have hrest := ih (hkeeps.logsTo_iff.mpr h) ((writable_recorded_iff h r).mpr hwritable)
    obtain ⟨found, hfound, -, heq⟩ | ⟨-, hnot⟩ := recorded_cases s r
    · cases hfound.eq h
      have hcontent : (s.recorded r.source r.message).files.contentAt? place =
          some ((s.files.contentAt? place).getD "" ++ r.line s.clock) := by
        rw [heq]
        exact (FileTree.contentAt?_put_file hwritable.at?_ne_directory _).trans (if_pos rfl)
      rw [hcontent, hkeeps.clock] at hrest
      exact hrest
    · exact absurd hwritable (hnot place h)

/-- Records that cannot be written are dropped. -/
theorem recordAll_eq_self (h : ∀ place, s.LogsTo place → ¬ s.files.Writable place)
    (records : List LogRecord) : s.recordAll records = s := by
  induction records with
  | nil => rfl
  | cons r rest ih =>
    obtain ⟨place, hlogs, hwritable, -⟩ | ⟨heq, -⟩ := recorded_cases s r
    · exact absurd hwritable (h place hlogs)
    · exact (congrArg (recordAll · rest) heq).trans ih

/-- Records change no file but that to which the log goes. -/
theorem contentAt?_recordAll_of_not_logsTo (records : List LogRecord) (h : ¬ s.LogsTo place) :
    (s.recordAll records).files.contentAt? place = s.files.contentAt? place := by
  induction records generalizing s with
  | nil => rfl
  | cons r rest ih =>
    have hrest := ih (mt (keepsLog_recorded s r).logsTo_iff.mp h)
    refine hrest.trans ?_
    obtain ⟨found, hfound, hwritable, heq⟩ | ⟨heq, -⟩ := recorded_cases s r
    · have hne : found ≠ place := by
        rintro rfl
        exact h hfound
      rw [heq]
      exact (FileTree.contentAt?_put_file hwritable.at?_ne_directory _).trans (if_neg hne)
    · rw [heq]

theorem contentAt?_recordAll {records : List LogRecord}
    (h : records ≠ [] → s.LogsTo place → s.files.Writable place) :
    (s.recordAll records).files.contentAt? place =
      contentWith (s.files.contentAt? place)
        (if s.LogsTo place then records.map (·.line s.clock) else []) := by
  cases records with
  | nil =>
    rw [List.map_nil, ite_self]
    rfl
  | cons r rest =>
    by_cases hlogs : s.LogsTo place
    · rw [if_pos hlogs]
      exact contentAt?_recordAll_of_logsTo _ hlogs (h (List.cons_ne_nil r rest) hlogs)
    · rw [if_neg hlogs]
      exact contentAt?_recordAll_of_not_logsTo _ hlogs

end Session

end HostBoundary
