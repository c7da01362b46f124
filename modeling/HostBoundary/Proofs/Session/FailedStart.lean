-- SUMMARY: What a failed start leaves: the verbosity that it asked for, and of the log, the filter and all files what was there.
import HostBoundary.Proofs.Session.Effects

/-!
# Failed starts

Setting a session up can fail at settings that are not accepted, at a directory that cannot be made
and at an old log that cannot be removed, since its directory is closed or it is a directory itself. The
log then goes where it went, the filter is as it was and every file holds what it held. Verbosity is not
among what is kept: it is changed first, before anything can fail. Only settings that are not accepted ask
for no verbosity, and leave it alone.
-/

namespace HostBoundary

namespace Session

open FileTree

variable {s : Session}

/-! ## The log, the filter and the files -/

/-- What is set up in two sessions is the same: where the log goes, which filter is installed, if one
is, and what every file holds. -/
structure SameSetUp (s t : Session) : Prop where
  logPath : t.logPath = s.logPath
  filter : t.filter = s.filter
  content : ∀ place, t.files.contentAt? place = s.files.contentAt? place

namespace SameSetUp

theorem refl (s : Session) : SameSetUp s s := ⟨rfl, rfl, fun _ => rfl⟩

/-- Where no log was set up, directories may be new, but no file is. -/
theorem of_setUp {files : FileTree} {level : Nat} (h : SetUp none s.files files) :
    SameSetUp s { s with files, verbosity := level } where
  logPath := rfl
  filter := rfl
  content := by
    intro place
    refine h.kept place ?_
    intro path hpath
    cases hpath

end SameSetUp

theorem sameSetUp_configureLog {level : Nat} {path : Option String} {e : LogError}
    (h : (configureLog level path s).reply = .error e) :
    SameSetUp s (configureLog level path s).session := by
  obtain ⟨files, -, heq⟩ | ⟨files, e, hsetUp, heq⟩ := configureLog_cases level path s
  · rw [heq] at h
    cases h
  · rw [heq]
    exact .of_setUp hsetUp

/-- A start fails only where its log cannot be set up, and then does nothing else. -/
theorem sameSetUp_start {settings : Settings} {e : BoundaryError}
    (h : (start settings s).reply = .error e) : SameSetUp s (start settings s).session := by
  obtain ⟨files, -, heq⟩ | ⟨files, e, hsetUp, heq⟩ := start_cases settings s
  · rw [heq] at h
    cases h
  · rw [heq]
    exact .of_setUp hsetUp

theorem sameSetUp_startFromEnvironment {e : BoundaryError}
    (h : (startFromEnvironment s).reply = .error e) :
    SameSetUp s (startFromEnvironment s).session := by
  cases hload : Settings.ofEnvironment s.environment with
  | error fault =>
    rw [startFromEnvironment_of_error hload]
    exact .refl s
  | ok settings =>
    have heq := startFromEnvironment_of_ok hload
    rw [heq] at h ⊢
    cases hreply : (start settings s).reply with
    | ok done =>
      rw [hreply] at h
      cases h
    | error cause => exact sameSetUp_start hreply

end Session

/-! ## Failed steps -/

/-- A step was to set the session up, and failed. -/
def Reply.isFailedStart : Reply → Bool
  | .logSet (.error _) | .started (.error _) | .startedWith (.error _) => true
  | _ => false

namespace Session

theorem isFailedStart_changeFiles (f : FileTree → Except FileError FileTree) (s : Session) :
    (changeFiles f s).reply.isFailedStart = false := by
  rw [changeFiles]
  split
  · rfl
  · rfl

/-- Only three kinds of steps set a session up, and each of them fails with its own error. -/
theorem failedStart_cases {step : Step} (h : (step.run s).reply.isFailedStart) :
    (∃ level path e, step = .configureLog level path ∧
        (configureLog level path s).reply = .error e) ∨
      (∃ settings e, step = .start settings ∧ (start settings s).reply = .error e) ∨
      ∃ e, step = .startFromEnvironment ∧ (startFromEnvironment s).reply = .error e := by
  cases step with
  | configureLog level path =>
    have hrun : ((Step.configureLog level path).run s).reply =
        .logSet (configureLog level path s).reply := rfl
    cases hreply : (configureLog level path s).reply with
    | ok done =>
      rw [hrun, hreply] at h
      cases h
    | error e => exact .inl ⟨level, path, e, rfl, hreply⟩
  | start settings =>
    have hrun : ((Step.start settings).run s).reply = .started (start settings s).reply := rfl
    cases hreply : (start settings s).reply with
    | ok done =>
      rw [hrun, hreply] at h
      cases h
    | error e => exact .inr (.inl ⟨settings, e, rfl, hreply⟩)
  | startFromEnvironment =>
    have hrun : (Step.startFromEnvironment.run s).reply =
        .startedWith (startFromEnvironment s).reply := rfl
    cases hreply : (startFromEnvironment s).reply with
    | ok settings =>
      rw [hrun, hreply] at h
      cases h
    | error e => exact .inr (.inr ⟨e, rfl, rfl⟩)
  | writeFile path content =>
    exact absurd ((isFailedStart_changeFiles _ s).symm.trans h) Bool.false_ne_true
  | removeFile path =>
    exact absurd ((isFailedStart_changeFiles _ s).symm.trans h) Bool.false_ne_true
  | _ => exact absurd h Bool.false_ne_true

/-- A step that fails to set the session up leaves the log, the filter and all files as they were. The
verbosity is the one that the step asked for; it stays only where settings are not accepted. -/
theorem failed_start_keeps_setUp (step : Step) (s : Session)
    (h : (step.run s).reply.isFailedStart) :
    SameSetUp s (step.run s).session ∧
      (step.run s).session.verbosity = (step.namedVerbosity? s).getD s.verbosity := by
  refine ⟨?_, verbosity_run step s⟩
  obtain ⟨level, path, e, rfl, hreply⟩ | ⟨settings, e, rfl, hreply⟩ | ⟨e, rfl, hreply⟩ :=
    failedStart_cases h
  · exact sameSetUp_configureLog hreply
  · exact sameSetUp_start hreply
  · exact sameSetUp_startFromEnvironment hreply

/-- A session with a line in its log, which asks for a log below that file. -/
def misdirected : Session :=
  ({ clock := "now", environment := [("PACKHOST_VERBOSE", "2"), ("PACKHOST_LOG_FILE", "run.log/log")] } :
    Session).after [.configureLog 1 (some "run.log"), .warn "kept"]

/-- A session with a line in its log, in a directory that was closed since. -/
def shutOut : Session :=
  let s := ({ clock := "now" } : Session).after [.configureLog 1 (some "logs/run.log"), .warn "kept"]
  { s with files := { s.files with closed := s.files.closed.set (some .denied) ["tmp", "work", "logs"] } }

/-- A start that asks for a log below a file fails and leaves that file, which is the log, as it was. Setting up
a log fails where the old one cannot be removed, and the old one stays with its line. -/
theorem failing_starts_keep_setUp :
    ((Step.startFromEnvironment.run misdirected).reply.isFailedStart ∧
      SameSetUp misdirected (Step.startFromEnvironment.run misdirected).session ∧
      (Step.startFromEnvironment.run misdirected).session.verbosity = 2) ∧
    (configureLog 2 (some "logs/run.log") shutOut).reply = .error (.truncation .denied) ∧
      SameSetUp shutOut ((Step.configureLog 2 (some "logs/run.log")).run shutOut).session ∧
      ((Step.configureLog 2 (some "logs/run.log")).run shutOut).session.files.read? (.ofPath "logs/run.log") =
        some "[now] [HOST] WARN kept\n" := by
  have hmisdirected : (Step.startFromEnvironment.run misdirected).reply.isFailedStart := by decide +kernel
  have hshutOut : ((Step.configureLog 2 (some "logs/run.log")).run shutOut).reply.isFailedStart := by
    decide +kernel
  obtain ⟨hsame, hverbosity⟩ := failed_start_keeps_setUp .startFromEnvironment misdirected hmisdirected
  obtain ⟨hkept, -⟩ := failed_start_keeps_setUp (.configureLog 2 (some "logs/run.log")) shutOut hshutOut
  exact ⟨⟨hmisdirected, hsame, hverbosity.trans (by decide +kernel)⟩, rfl, hkept,
    by decide +kernel⟩

/-- Verbosity is not kept: where the old log cannot be removed, since it is a directory, the session
goes on with the verbosity that was asked for. -/
theorem failed_configureLog_changes_verbosity :
    let s := ({ clock := "now" } : Session).after [.makeDirectories "logs"]
    ((Step.configureLog 2 (some "logs")).run s).reply.isFailedStart ∧
      ¬ (SameSetUp s ((Step.configureLog 2 (some "logs")).run s).session ∧
        ((Step.configureLog 2 (some "logs")).run s).session.verbosity = s.verbosity) := by
  refine ⟨by decide +kernel, ?_⟩
  rintro ⟨-, hverbosity⟩
  exact absurd hverbosity (by decide +kernel)

end Session

end HostBoundary
