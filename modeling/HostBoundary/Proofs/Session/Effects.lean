-- SUMMARY: What a step leaves behind: its variables, verbosity, log path, filter and switch, told from the session in which it is taken.
import HostBoundary.Proofs.Session.Run
import HostBoundary.Proofs.Session.Steps

/-!
# What a step leaves

Apart from the files, the session that a step leaves is told by five questions to the step: which
variables there are afterwards, which verbosity it asks for, where it puts the log, which filter it
installs and whether it asks for the switch of advisories. So after a run, the verbosity is the one that
was asked for last, but a filter that is installed stays, and so does the switch once it is decided.
-/

namespace HostBoundary

namespace Step

/-- The environment after a step. -/
def environmentAfter (s : Session) : Step → Environment
  | setVariable key value => (s.withVariable key value).environment
  | _ => s.environment

/-- The verbosity that a step asks for, if it asks for one. -/
def namedVerbosity? (s : Session) : Step → Option Nat
  | setVerbosity level | configureLog level _ => some level
  | start settings => some settings.verbosity
  | startFromEnvironment =>
    match Settings.ofEnvironment s.environment with
    | .ok settings => some settings.verbosity
    | .error _ => none
  | _ => none

/-- The filter that a step installs if there is none. -/
def filter? (s : Session) : Step → Option TraceFilter
  | installFilter => some (.ofEnvironment s.environment)
  | start settings =>
    match (Session.start settings s).reply with
    | .ok () => some (.ofEnvironment s.environment)
    | .error _ => none
  | startFromEnvironment =>
    match (Session.startFromEnvironment s).reply with
    | .ok _ => some (.ofEnvironment s.environment)
    | .error _ => none
  | _ => none

/-- Whether a step asks if advisories are on for the session. -/
def asks : Step → Bool
  | advisoriesEnabled | advise _ => true
  | _ => false

/-- How a step decides the switch of advisories if it is not decided. -/
def switch? (s : Session) (step : Step) : Option Bool :=
  if step.asks then some s.advisoriesNow else none

/-- The session that a step leaves, but for its files. -/
def left (s : Session) (step : Step) : Session :=
  { s with
    environment := step.environmentAfter s
    verbosity := (step.namedVerbosity? s).getD s.verbosity
    logPath := (step.namedLog? s).or s.logPath
    filter := s.filter.or (step.filter? s)
    advisories := s.advisories.or (step.switch? s) }

variable {s : Session} {step : Step}

theorem left_eq (hfilter : step.filter? s = none) (hasks : step.asks = false) :
    step.left s =
      { s with
        environment := step.environmentAfter s
        verbosity := (step.namedVerbosity? s).getD s.verbosity
        logPath := (step.namedLog? s).or s.logPath } := by
  simp [left, switch?, hfilter, hasks]

/-- A step that asks for the switch decides it, if it is not decided. -/
theorem left_of_asks (hfilter : step.filter? s = none) (hasks : step.asks) :
    step.left s =
      { s with
        environment := step.environmentAfter s
        verbosity := (step.namedVerbosity? s).getD s.verbosity
        logPath := (step.namedLog? s).or s.logPath
        advisories := some (s.advisories.getD s.advisoriesNow) } := by
  unfold left switch?
  cases s.advisories with
  | none => simp [hfilter, hasks]
  | some enabled => simp [hfilter]

theorem left_installFilter :
    installFilter.left s = { s with filter := s.filter.or (some (.ofEnvironment s.environment)) } := by
  simp [left, environmentAfter, namedVerbosity?, namedLog?, filter?, switch?, asks]

theorem left_start_of_ok {settings : Settings} (hreply : (Session.start settings s).reply = .ok ()) :
    (start settings).left s = s.started settings s.files := by
  simp [left, environmentAfter, namedVerbosity?, namedLog?, filter?, switch?, asks, hreply,
    Session.started]

theorem left_start_of_error {settings : Settings} {e : BoundaryError}
    (hreply : (Session.start settings s).reply = .error e) :
    (start settings).left s = { s with verbosity := settings.verbosity } := by
  simp [left, environmentAfter, namedVerbosity?, namedLog?, filter?, switch?, asks, hreply]

/-- Where settings are not accepted, a start leaves the session as it is; else it is that of the
settings. -/
theorem left_startFromEnvironment : startFromEnvironment.left s =
    match Settings.ofEnvironment s.environment with
    | .ok settings => (start settings).left s
    | .error _ => s := by
  cases hload : Settings.ofEnvironment s.environment with
  | error e =>
    have heq := Session.startFromEnvironment_of_error hload
    simp [left, environmentAfter, namedVerbosity?, namedLog?, filter?, switch?, asks, hload, heq]
  | ok settings =>
    have heq := Session.startFromEnvironment_of_ok hload
    cases hreply : (Session.start settings s).reply with
    | ok done =>
      simp [left, environmentAfter, namedVerbosity?, namedLog?, filter?, switch?, asks, hload, heq, hreply,
        Except.map]
    | error e =>
      simp [left, environmentAfter, namedVerbosity?, namedLog?, filter?, switch?, asks, hload, heq, hreply,
        Except.map]

theorem exists_session_start (settings : Settings) (s : Session) :
    ∃ files, (Session.start settings s).session = { (start settings).left s with files } := by
  obtain ⟨files, -, heq⟩ | ⟨files, e, -, heq⟩ := Session.start_cases settings s
  · obtain ⟨last, hlast⟩ :=
      Session.exists_recordAll_eq (s.started settings files) (LogRecord.ofStart s.filter settings)
    rw [left_start_of_ok (congrArg Outcome.reply heq), heq]
    exact ⟨last, hlast⟩
  · rw [left_start_of_error (congrArg Outcome.reply heq), heq]
    exact ⟨files, rfl⟩

/-- Every step leaves the session that its demands say, with some files. -/
theorem exists_session_run (step : Step) (s : Session) :
    ∃ files, (step.run s).session = { step.left s with files } := by
  cases step with
  | verbosity | setVerbosity | logPath | loadSettings | advisoriesNow | compute |
      fileContent | makeDirectories | look =>
    rw [left_eq rfl rfl]
    exact ⟨_, rfl⟩
  | configureLog level path =>
    have hrun : ((configureLog level path).run s).session = (Session.configureLog level path s).session :=
      rfl
    rw [hrun, left_eq rfl rfl, namedLog?]
    obtain ⟨files, -, heq⟩ | ⟨files, e, -, heq⟩ := Session.configureLog_cases level path s
    · rw [heq]
      exact ⟨files, rfl⟩
    · rw [heq]
      exact ⟨files, rfl⟩
  | installFilter =>
    rw [left_installFilter]
    exact ⟨s.files, congrArg Outcome.session (Session.installFilter_eq s)⟩
  | record source message =>
    rw [left_eq rfl rfl]
    exact Session.exists_recordAll_eq s [⟨source, message⟩]
  | debug message =>
    have hrun := congrArg Outcome.session (Session.debug_eq message s)
    rw [left_eq rfl rfl]
    exact hrun ▸ Session.exists_recordAll_eq s _
  | warn message =>
    rw [left_eq rfl rfl]
    exact Session.exists_recordAll_eq s [.warning message]
  | start settings => exact exists_session_start settings s
  | startFromEnvironment =>
    have hrun : (startFromEnvironment.run s).session = (Session.startFromEnvironment s).session := rfl
    rw [hrun, left_startFromEnvironment]
    cases hload : Settings.ofEnvironment s.environment with
    | error e =>
      rw [Session.startFromEnvironment_of_error hload]
      exact ⟨s.files, rfl⟩
    | ok settings =>
      rw [Session.startFromEnvironment_of_ok hload]
      exact exists_session_start settings s
  | setVariable key value =>
    rw [left_eq rfl rfl]
    cases value with
    | none => exact ⟨s.files, rfl⟩
    | some value => exact ⟨s.files, rfl⟩
  | advisoriesEnabled =>
    rw [left_of_asks rfl rfl]
    exact ⟨s.files, congrArg Outcome.session (Session.advisoriesEnabled_eq s)⟩
  | advise content =>
    have hrun := congrArg Outcome.session (Session.advise_eq content s)
    rw [Session.session_adviseIf] at hrun
    rw [left_of_asks rfl rfl]
    exact hrun ▸ Session.exists_recordAll_eq _ _
  | adviseIf enabled content =>
    rw [left_eq rfl rfl]
    exact Session.session_adviseIf enabled content s ▸ Session.exists_recordAll_eq s _
  | writeFile path content =>
    obtain ⟨files, hrun, -⟩ :=
      Session.session_changeFiles (f := (·.write (.ofPath path) content)) s
        fun next => FileTree.keepsDirectories_of_change_eq_ok
    rw [left_eq rfl rfl]
    exact ⟨files, hrun⟩
  | removeFile path =>
    obtain ⟨files, hrun, -⟩ :=
      Session.session_changeFiles (f := (·.remove (.ofPath path))) s
        fun next => FileTree.keepsDirectories_of_remove_eq_ok
    rw [left_eq rfl rfl]
    exact ⟨files, hrun⟩

end Step

namespace Session

/-- The environment changes only where a step sets a variable. -/
theorem environment_run (step : Step) (s : Session) :
    (step.run s).session.environment = step.environmentAfter s := by
  obtain ⟨files, hrun⟩ := step.exists_session_run s
  exact congrArg environment hrun

/-- The verbosity after a step is the one that the step asks for, and stays if it asks for none. -/
theorem verbosity_run (step : Step) (s : Session) :
    (step.run s).session.verbosity = (step.namedVerbosity? s).getD s.verbosity := by
  obtain ⟨files, hrun⟩ := step.exists_session_run s
  exact congrArg verbosity hrun

/-- The verbosity after a run is the one that was asked for last. -/
theorem verbosity_after (s : Session) (steps : List Step) :
    (s.after steps).verbosity = (gathered Step.namedVerbosity? s steps).getLast?.getD s.verbosity := by
  have hpart : ∀ (t : Session) (step : Step),
      some (step.run t).session.verbosity = (step.namedVerbosity? t).or (some t.verbosity) := by
    intro t step
    rw [verbosity_run, Option.or_some]
  exact Option.some.inj ((eq_getLast?_gathered (some ·.verbosity) hpart s steps).trans Option.or_some)

/-- A filter that is installed stays. -/
theorem filter_run (step : Step) (s : Session) :
    (step.run s).session.filter = s.filter.or (step.filter? s) := by
  obtain ⟨files, hrun⟩ := step.exists_session_run s
  exact congrArg filter hrun

/-- The filter after a run is the first one that was installed. -/
theorem filter_after (s : Session) (steps : List Step) :
    (s.after steps).filter = s.filter.or (gathered Step.filter? s steps).head? :=
  eq_head?_gathered (·.filter) (fun t step => filter_run step t) s steps

/-- The switch stays once it is decided. -/
theorem advisories_run (step : Step) (s : Session) :
    (step.run s).session.advisories = s.advisories.or (step.switch? s) := by
  obtain ⟨files, hrun⟩ := step.exists_session_run s
  exact congrArg advisories hrun

/-- After a step that asks for it, the switch is decided. -/
theorem advisories_run_of_asks {step : Step} (h : step.asks) (s : Session) :
    (step.run s).session.advisories = some (s.advisories.getD s.advisoriesNow) := by
  simp only [advisories_run, Step.switch?, h, if_true, Option.or_some]

/-- The switch after a run is as the first step decided it that asked for it. -/
theorem advisories_after (s : Session) (steps : List Step) :
    (s.after steps).advisories = s.advisories.or (gathered Step.switch? s steps).head? :=
  eq_head?_gathered (·.advisories) (fun t step => advisories_run step t) s steps

end Session

end HostBoundary
