-- SUMMARY: How much the console shows makes no difference to the files of a session.
import HostBoundary.Proofs.Session.Steps

/-!
# Verbosity and files

Verbosity decides what is shown on the console and nothing else. Two sessions that differ in it go on
to differ in it at most, whatever steps are taken, so they make the same files.
-/

namespace HostBoundary

namespace Session

/-! ## Operations -/

theorem recorded_verbosity (s : Session) (level : Nat) (source message : String) :
    ({ s with verbosity := level } : Session).recorded source message =
      { s.recorded source message with verbosity := level } := by
  rw [recorded, recorded]
  simp only
  split
  · rfl
  · split
    · rfl
    · rfl

theorem recordAll_verbosity (s : Session) (level : Nat) (records : List LogRecord) :
    ({ s with verbosity := level } : Session).recordAll records =
      { s.recordAll records with verbosity := level } := by
  induction records generalizing s with
  | nil => rfl
  | cons r rest ih =>
    have hfirst := recorded_verbosity s level r.source r.message
    refine (congrArg (recordAll · rest) hfirst).trans ?_
    exact ih _

theorem configureLog_verbosity (shown : Nat) (path : Option String) (s : Session) (level : Nat) :
    configureLog shown path { s with verbosity := level } = configureLog shown path s := rfl

theorem start_verbosity (settings : Settings) (s : Session) (level : Nat) :
    start settings { s with verbosity := level } = start settings s := rfl

theorem session_startFromEnvironment_verbosity (s : Session) (level : Nat) :
    ∃ next, (startFromEnvironment { s with verbosity := level }).session =
      { (startFromEnvironment s).session with verbosity := next } := by
  let shown : Session := { s with verbosity := level }
  cases hload : Settings.ofEnvironment s.environment with
  | error e =>
    have hshown : Settings.ofEnvironment shown.environment = .error e := hload
    rw [startFromEnvironment_of_error hload, startFromEnvironment_of_error hshown]
    exact ⟨level, rfl⟩
  | ok settings =>
    have hshown : Settings.ofEnvironment shown.environment = .ok settings := hload
    rw [startFromEnvironment_of_ok hload, startFromEnvironment_of_ok hshown, start_verbosity]
    exact ⟨_, rfl⟩

theorem session_changeFiles_verbosity (f : FileTree → Except FileError FileTree) (s : Session)
    (level : Nat) :
    (changeFiles f { s with verbosity := level }).session =
      { (changeFiles f s).session with verbosity := level } := by
  rw [changeFiles, changeFiles]
  simp only
  split
  · rfl
  · rfl

/-! ## Steps and runs -/

/-- Sessions that differ in their verbosity only go on to differ in nothing else. -/
theorem exists_run_verbosity (step : Step) (s : Session) (level : Nat) :
    ∃ next, (step.run { s with verbosity := level }).session =
      { (step.run s).session with verbosity := next } := by
  cases step with
  | verbosity | logPath | loadSettings | advisoriesNow | compute | fileContent | look =>
    exact ⟨level, rfl⟩
  | setVerbosity shown => exact ⟨shown, rfl⟩
  | configureLog shown path =>
    refine ⟨(configureLog shown path s).session.verbosity, ?_⟩
    change (configureLog shown path { s with verbosity := level }).session = _
    rw [configureLog_verbosity]
    rfl
  | installFilter =>
    obtain ⟨clock, environment, files, verbosity, logPath, filter, advisories⟩ := s
    cases filter with
    | none => exact ⟨level, rfl⟩
    | some filter => exact ⟨level, rfl⟩
  | record source message => exact ⟨level, recorded_verbosity s level source message⟩
  | debug message =>
    refine ⟨level, ?_⟩
    change (debug message { s with verbosity := level }).session =
      { (debug message s).session with verbosity := level }
    rw [debug_eq, debug_eq]
    exact recordAll_verbosity s level _
  | warn message => exact ⟨level, recordAll_verbosity s level [.warning message]⟩
  | start settings =>
    refine ⟨(start settings s).session.verbosity, ?_⟩
    change (start settings { s with verbosity := level }).session = _
    rw [start_verbosity]
    rfl
  | startFromEnvironment => exact session_startFromEnvironment_verbosity s level
  | setVariable key value =>
    cases value with
    | none => exact ⟨level, rfl⟩
    | some value => exact ⟨level, rfl⟩
  | advisoriesEnabled =>
    refine ⟨level, ?_⟩
    change (advisoriesEnabled { s with verbosity := level }).session =
      { (advisoriesEnabled s).session with verbosity := level }
    rw [advisoriesEnabled_eq, advisoriesEnabled_eq]
    rfl
  | advise content =>
    refine ⟨level, ?_⟩
    change (advise content { s with verbosity := level }).session =
      { (advise content s).session with verbosity := level }
    rw [advise_eq, advise_eq, session_adviseIf, session_adviseIf, ← recordAll_verbosity]
    rfl
  | adviseIf enabled content =>
    refine ⟨level, ?_⟩
    change (adviseIf enabled content { s with verbosity := level }).session =
      { (adviseIf enabled content s).session with verbosity := level }
    rw [session_adviseIf, session_adviseIf, recordAll_verbosity]
  | writeFile path content => exact ⟨level, session_changeFiles_verbosity _ s level⟩
  | makeDirectories path => exact ⟨level, rfl⟩
  | removeFile path => exact ⟨level, session_changeFiles_verbosity _ s level⟩

/-- How much the console shows at first makes no difference to any file. -/
theorem files_after_verbosity (s : Session) (level : Nat) (steps : List Step) :
    (({ s with verbosity := level } : Session).after steps).files = (s.after steps).files := by
  induction steps generalizing s level with
  | nil => rfl
  | cons step rest ih =>
    obtain ⟨next, hnext⟩ := exists_run_verbosity step s level
    have hrest := ih (step.run s).session next
    rw [← hnext] at hrest
    exact hrest

end Session

end HostBoundary
