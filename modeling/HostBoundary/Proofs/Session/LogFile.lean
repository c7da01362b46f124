-- SUMMARY: The content of a log file after a run: the lines of the records since it was last set up, in order.
import HostBoundary.Proofs.Files.Paths
import HostBoundary.Proofs.Session.Run
import HostBoundary.Proofs.Session.Verbosity

/-!
# The content of a log file

A log file that only the session touches holds the lines that were recorded while the log went to its
place, each once and in order, from the last time on that the log was set up there. What the file
held before is gone.
-/

namespace HostBoundary

namespace Step

/-- A step, taken in a session, sets the log up at a place: afterwards the path that it names leads
there. -/
def SetsUpAt (place : List String) (s : Session) (step : Step) : Prop :=
  ∃ path ∈ step.namedLog? s, (step.run s).session.files.LeadsTo (.ofPath path) place

/-- If a step has records for the file at a place, that file can be opened. -/
def Opens (place : List String) (s : Session) (step : Step) : Prop :=
  step.records s ≠ [] → ∀ path ∈ (step.run s).session.logPath,
    (step.run s).session.files.LeadsTo (.ofPath path) place →
    (step.run s).session.files.opens (.ofPath path)

/-- The lines that a step adds to the file at a place. -/
def linesTo (place : List String) (s : Session) (step : Step) : List String :=
  if (step.run s).session.LogsTo place then (step.records s).map (·.line s.clock) else []

instance (place : List String) (s : Session) : DecidablePred (SetsUpAt place s) := fun step =>
  inferInstanceAs (Decidable
    (∃ path ∈ step.namedLog? s, (step.run s).session.files.LeadsTo (.ofPath path) place))

instance (place : List String) (s : Session) : DecidablePred (Spares place s) := fun step =>
  inferInstanceAs (Decidable
    (step.isOutside → (step.run s).session.files.contentAt? place = s.files.contentAt? place))

instance (place : List String) (s : Session) : DecidablePred (Opens place s) := fun step =>
  inferInstanceAs (Decidable
    (step.records s ≠ [] → ∀ path ∈ (step.run s).session.logPath,
      (step.run s).session.files.LeadsTo (.ofPath path) place →
      (step.run s).session.files.opens (.ofPath path)))

end Step

namespace Session

open FileTree

variable {s : Session} {step : Step} {steps : List Step} {place : List String}

/-- The lines that a run adds to the file at a place. -/
def linesTo (place : List String) : Session → List Step → List String
  | _, [] => []
  | s, step :: rest => step.linesTo place s ++ linesTo place (step.run s).session rest

/-- The content of a file that was made by appending lines. Without lines there is no file. -/
def contentOf (lines : List String) : Option String :=
  if lines = [] then none else some (String.join lines)

theorem contentWith_some (old : String) (lines : List String) :
    contentWith (some old) lines = some (lines.foldl (· ++ ·) old) := by
  induction lines generalizing old with
  | nil => rfl
  | cons line rest ih => exact ih (old ++ line)

theorem contentWith_none (lines : List String) : contentWith none lines = contentOf lines := by
  cases lines with
  | nil => rfl
  | cons line rest => exact contentWith_some ("" ++ line) rest

theorem contentWith_append (old : Option String) (lines more : List String) :
    contentWith old (lines ++ more) = contentWith (contentWith old lines) more :=
  List.foldl_append

/-! ## One step -/

/-- The log goes where the step names, and stays where it was if the step names nothing. -/
theorem logPath_run (step : Step) (s : Session) :
    (step.run s).session.logPath = (step.namedLog? s).or s.logPath := by
  obtain ⟨ready, hprepares, hrun⟩ := step.exists_prepares s
  rw [hrun, (keepsLog_recordAll ready _).logPath, hprepares.logPath]

theorem keepsDirectories_run (step : Step) (s : Session) :
    s.files.KeepsDirectories (step.run s).session.files := by
  obtain ⟨ready, hprepares, hrun⟩ := step.exists_prepares s
  rw [hrun]
  exact hprepares.directories.trans (keepsLog_recordAll ready _).keepsDirectories

/-- The lines of a step, told from the session in which the log is set up. -/
theorem linesTo_eq {ready : Session} (hclock : ready.clock = s.clock)
    (hrun : (step.run s).session = ready.recordAll (step.records s)) :
    step.linesTo place s =
      if ready.LogsTo place then (step.records s).map (·.line ready.clock) else [] := by
  have hiff : (step.run s).session.LogsTo place ↔ ready.LogsTo place := by
    rw [hrun]
    exact (keepsLog_recordAll ready _).logsTo_iff
  rw [Step.linesTo, hclock]
  simp only [hiff]

/-- If the file can be opened when the records of a step are there, it could be written before them. -/
theorem writable_of_opens {ready : Session} (hopens : step.Opens place s)
    (hrun : (step.run s).session = ready.recordAll (step.records s)) (hsome : step.records s ≠ [])
    (hlogs : ready.LogsTo place) : ready.files.Writable place := by
  obtain ⟨path, hpath, hleads⟩ := (keepsLog_recordAll ready (step.records s)).logsTo_iff.mpr hlogs
  rw [← hrun] at hpath hleads
  have hwritable := FileTree.writable_of_opens hleads (hopens hsome path hpath hleads)
  rw [hrun] at hwritable
  exact (writable_recordAll_iff hlogs _).mp hwritable

/-- Where a step sets the log up, only its own lines are left. -/
theorem contentAt?_run_of_setsUpAt (h : step.SetsUpAt place s) (hopens : step.Opens place s) :
    (step.run s).session.files.contentAt? place = contentWith none (step.linesTo place s) := by
  obtain ⟨path, hnamed, hleads⟩ := h
  obtain ⟨ready, hprepares, hrun⟩ := step.exists_prepares s
  have hkeeps := keepsLog_recordAll ready (step.records s)
  rw [hrun, hkeeps.leadsTo_iff] at hleads
  have hnone := hprepares.anew path hnamed place hleads
  rw [linesTo_eq hprepares.clock hrun, hrun, ← contentAt?_of_none hnone]
  exact contentAt?_recordAll (writable_of_opens hopens hrun)

/-- Elsewhere a step appends its lines. -/
theorem contentAt?_run (hnot : ¬ step.SetsUpAt place s) (hspares : step.Spares place s)
    (hopens : step.Opens place s) :
    (step.run s).session.files.contentAt? place =
      contentWith (s.files.contentAt? place) (step.linesTo place s) := by
  obtain ⟨ready, hprepares, hrun⟩ := step.exists_prepares s
  have hkeeps := keepsLog_recordAll ready (step.records s)
  have hkept : ready.files.contentAt? place = s.files.contentAt? place := by
    refine hprepares.kept place hspares ?_
    intro path hnamed hleads
    refine hnot ⟨path, hnamed, ?_⟩
    rw [hrun]
    exact hkeeps.leadsTo_iff.mpr hleads
  rw [linesTo_eq hprepares.clock hrun, hrun, ← hkept]
  exact contentAt?_recordAll (writable_of_opens hopens hrun)

/-! ## A run -/

theorem keepsDirectories_after (s : Session) (steps : List Step) :
    s.files.KeepsDirectories (s.after steps).files := by
  induction steps generalizing s with
  | nil => exact .refl s.files
  | cons step rest ih => exact (keepsDirectories_run step s).trans (ih _)

/-- As long as the log is not set up at a place anew, lines are only added to the file there. -/
theorem contentAt?_after (hnot : EachStep (fun t step => ¬ step.SetsUpAt place t) s steps)
    (hspares : EachStep (Step.Spares place) s steps) (hopens : EachStep (Step.Opens place) s steps) :
    (s.after steps).files.contentAt? place =
      contentWith (s.files.contentAt? place) (linesTo place s steps) := by
  induction steps generalizing s with
  | nil => rfl
  | cons step rest ih =>
    have hrest := ih hnot.2 hspares.2 hopens.2
    rw [contentAt?_run hnot.1 hspares.1 hopens.1, ← contentWith_append] at hrest
    exact hrest

/-! ## The log file -/

/-- After the last step that sets the log up at a path, the file there holds the lines that are
recorded from that step on while the log goes there, each once and in order, and it is read under every
path that leads to its place. The log goes where the last step that named a path put it, and verbosity
makes no difference to any file. The path leads to a place whenever the file can be opened
(`FileTree.opens_iff`). -/
theorem logFile_holds_lines (s : Session) (before later : List Step) (init : Step) (path : String)
    (place : List String) (hnamed : init.namedLog? (s.after before) = some path)
    (hleads : (s.after (before ++ [init])).files.LeadsTo (.ofPath path) place)
    (hlast : EachStep (fun t step => ¬ step.SetsUpAt place t) (s.after (before ++ [init])) later)
    (hspares : EachStep (Step.Spares place) (s.after (before ++ [init])) later)
    (hopens : EachStep (Step.Opens place) (s.after before) (init :: later)) :
    (s.after (before ++ init :: later)).files.read? (.ofPath path) =
        contentOf (linesTo place (s.after before) (init :: later)) ∧
      (∀ spelling, (s.after (before ++ init :: later)).files.LeadsTo (.ofPath spelling) place →
        (s.after (before ++ init :: later)).files.read? (.ofPath spelling) =
          contentOf (linesTo place (s.after before) (init :: later))) ∧
      (∀ (step : Step) (t : Session),
        (step.run t).session.logPath = (step.namedLog? t).or t.logPath) ∧
      ∀ level, (({ s with verbosity := level } : Session).after (before ++ init :: later)).files =
        (s.after (before ++ init :: later)).files := by
  have hinit : s.after (before ++ [init]) = (init.run (s.after before)).session :=
    after_append s before [init]
  have hall : s.after (before ++ init :: later) = (s.after (before ++ [init])).after later := by
    rw [← after_append, List.append_assoc]
    rfl
  have hthere := (keepsDirectories_after (s.after (before ++ [init])) later).leadsTo hleads
  have hcontent : (s.after (before ++ init :: later)).files.contentAt? place =
      contentOf (linesTo place (s.after before) (init :: later)) := by
    rw [hinit] at hleads hlast hspares
    rw [hall, hinit, contentAt?_after hlast hspares hopens.2,
      contentAt?_run_of_setsUpAt ⟨path, hnamed, hleads⟩ hopens.1, ← contentWith_append]
    exact contentWith_none _
  rw [← hall] at hthere
  refine ⟨(read?_of_leadsTo hthere).trans hcontent, fun spelling hspelling => ?_, logPath_run,
    fun level => files_after_verbosity s level _⟩
  exact (read?_of_leadsTo hspelling).trans hcontent

/-- Old content is gone, also what was written under another spelling of the path, a disabled advisory is not
recorded, and what is recorded after the log moved goes elsewhere. The file is read under each spelling. -/
theorem restarted_logFile_holds_lines :
    let s : Session := ({ clock := "now", filter := some (.ofEnvironment []) } : Session).after
      ([.configureLog 0 (some "/tmp/work/run.log"), .warn "old"] ++ .start { logFile := some "run.log" } ::
        [.debug "first", .adviseIf false "quiet", .configureLog 1 none, .advise "loud",
          .configureLog 2 (some "other.log"), .warn "elsewhere"])
    let content := "[now] [HOST] WARN Failed to install tracing subscriber: " ++
      "a global default trace dispatcher has already been set\n" ++
      "[now] [HOST] DEBUG packhost initialized (verbosity: 0, deprecation warnings: true)\n" ++
      "[now] [HOST] DEBUG first\n[now] [DEPRECATION] loud\n"
    s.files.read? (.ofPath "run.log") = some content ∧
      s.files.read? (.ofPath "/tmp/work/run.log") = some content ∧
      s.files.read? (.ofPath "../work/./run.log") = some content := by
  intro s content
  obtain ⟨hread, hspelled, -⟩ := logFile_holds_lines
    ({ clock := "now", filter := some (.ofEnvironment []) } : Session)
    [.configureLog 0 (some "/tmp/work/run.log"), .warn "old"]
    [.debug "first", .adviseIf false "quiet", .configureLog 1 none, .advise "loud",
      .configureLog 2 (some "other.log"), .warn "elsewhere"]
    (.start { logFile := some "run.log" }) "run.log" ["tmp", "work", "run.log"] (by decide +kernel)
    (by decide +kernel) (by decide +kernel) (by decide +kernel) (by decide +kernel)
  have hleads : s.files.LeadsTo (.ofPath "run.log") ["tmp", "work", "run.log"] := by decide +kernel
  have hsame : s.files.locate (.ofPath "/tmp/work/run.log") = s.files.locate (.ofPath "run.log") :=
    locate_eq_of_spelled_out (by decide +kernel) (by decide +kernel) (by decide +kernel) (by decide +kernel)
  have hroot : s.files.LeadsTo (.ofPath "/tmp/work/run.log") ["tmp", "work", "run.log"] :=
    ⟨hsame.trans hleads.1, rfl⟩
  have hup : s.files.LeadsTo (.ofPath "../work/./run.log") ["tmp", "work", "run.log"] := by decide +kernel
  exact ⟨hread.trans (by decide +kernel), (hspelled _ hroot).trans (by decide +kernel),
    (hspelled _ hup).trans (by decide +kernel)⟩

end Session

end HostBoundary
