-- SUMMARY: What each operation of a session replies, shows and leaves, and that a step sets the log up, if it does, and then appends its records.
import HostBoundary.Proofs.Session.Records
import HostBoundary.Proofs.Settings

/-!
# Operations and steps

Of each operation of a session it is said once what it replies, what it shows and which session it
leaves. To the log, every step comes down to two things: a session in which the log is set up as the
step asks, if it does, and the records of the step, appended to that log. Setting up takes away an old
file at the new place and changes no other file; if it fails, the log stays where it was.
-/

namespace HostBoundary

namespace FileTree

variable {tree next : FileTree}

/-- What setting up a log at a path, if there is one, does to the files. -/
structure SetUp (path : Option String) (tree next : FileTree) : Prop where
  directories : tree.KeepsDirectories next
  /-- Nothing is left at the place of the log. -/
  anew : ∀ p ∈ path, ∀ place, next.LeadsTo (.ofPath p) place → next.at? place = none
  /-- Every other file is as it was. -/
  kept : ∀ place, (∀ p ∈ path, ¬ next.LeadsTo (.ofPath p) place) →
    next.contentAt? place = tree.contentAt? place

namespace SetUp

theorem refl (tree : FileTree) : SetUp none tree tree where
  directories := .refl tree
  anew := by
    intro p hp
    cases hp
  kept := fun _ _ => rfl

/-- Directories that are made on the way to a log that is not set up in the end. -/
theorem of_keeps (hdirectories : tree.KeepsDirectories next)
    (hcontent : ∀ place, next.contentAt? place = tree.contentAt? place) :
    SetUp none tree next where
  directories := hdirectories
  anew := by
    intro p hp
    cases hp
  kept := fun place _ => hcontent place

end SetUp

/-- A path at which nothing is found leads to a place where nothing is. -/
theorem at?_eq_none_of_node?_eq_none {location : Location} {place : List String}
    (hnode : tree.node? location = none) (h : tree.LeadsTo location place) :
    tree.at? place = none := by
  rw [node?, h.1] at hnode
  cases hat : tree.at? place with
  | none => rfl
  | some node =>
    simp only [hat] at hnode
    cases node with
    | file content =>
      rw [h.2] at hnode
      cases hnode
    | directory => cases hnode

end FileTree

namespace Session

open FileTree

variable {s : Session} {path : String}

/-! ## Setting the log up -/

/-- The log is moved and nothing is left at its new place, or it stays where it was. -/
theorem moveLog_cases (path : String) (s : Session) :
    (∃ files, SetUp (some path) s.files files ∧
      moveLog path s = { reply := .ok (), session := { s with files, logPath := some path } }) ∨
    ∃ files e, SetUp none s.files files ∧
      moveLog path s = { reply := .error e, session := { s with files } } := by
  obtain ⟨hdirectories, hcontent⟩ :=
    makeDirectories_keeps s.files (.ofPath (Location.parentPath path))
  unfold moveLog
  dsimp only
  split
  · next files e hmake =>
    rw [hmake] at hdirectories hcontent
    exact .inr ⟨files, _, .of_keeps hdirectories hcontent, rfl⟩
  · next files hmake =>
    rw [hmake] at hdirectories hcontent
    split
    · next hnode =>
      refine .inl ⟨files, ⟨hdirectories, ?_, fun place _ => hcontent place⟩, rfl⟩
      rintro p ⟨rfl⟩ place hleads
      exact at?_eq_none_of_node?_eq_none hnode hleads
    · split
      · exact .inr ⟨files, _, .of_keeps hdirectories hcontent, rfl⟩
      · next next hremove =>
        obtain ⟨place, hleads, hfile, rfl⟩ := leadsTo_of_remove_eq_ok hremove
        have hdrop := keepsDirectories_of_remove_eq_ok hremove
        have hthere := hdrop.leadsTo hleads
        refine .inl ⟨files.drop place, ⟨hdirectories.trans hdrop, ?_, ?_⟩, rfl⟩
        · rintro p ⟨rfl⟩ other hother
          cases hthere.eq hother
          exact (at?_drop (isGiven_eq_false hfile)).trans (if_pos rfl)
        · intro other hother
          have hne : place ≠ other := by
            rintro rfl
            exact hother path rfl hthere
          rw [contentAt?_drop hfile, if_neg hne, hcontent]

/-- The log is set up at the path, if there is one, or it stays where it was. -/
theorem configureLog_cases (level : Nat) (path : Option String) (s : Session) :
    (∃ files, SetUp path s.files files ∧ configureLog level path s =
      { reply := .ok ()
        session := { s with files, verbosity := level, logPath := path.or s.logPath } }) ∨
    ∃ files e, SetUp none s.files files ∧ configureLog level path s =
      { reply := .error e, session := { s with files, verbosity := level } } := by
  cases path with
  | none => exact .inl ⟨s.files, .refl s.files, rfl⟩
  | some path =>
    have heq : configureLog level (some path) s = moveLog path { s with verbosity := level } :=
      Action.bind_eq_of_silent rfl
    rw [heq]
    exact moveLog_cases path { s with verbosity := level }

/-! ## Operations that record -/

theorem debug_eq (message : String) (s : Session) :
    debug message s =
      { reply := ()
        console := if 1 ≤ s.verbosity then [.debug message] else []
        session := s.recordAll [.debug message] } := by
  obtain ⟨files, hfiles⟩ := exists_recordAll_eq s [.debug message]
  have hrecord : record hostSource ("DEBUG " ++ message) s =
      { reply := (), session := { s with files } } :=
    congrArg (fun t => ({ reply := (), session := t } : Outcome Unit)) hfiles
  rw [hfiles]
  refine (Action.bind_eq_of_silent hrecord).trans ?_
  refine (Action.bind_eq_of_silent (Action.current_eq _)).trans ?_
  simp only
  split
  · rfl
  · rfl

theorem warn_eq (message : String) (s : Session) :
    warn message s =
      { reply := (), console := [.warning message], session := s.recordAll [.warning message] } := rfl

theorem session_adviseIf (enabled : Bool) (content : String) (s : Session) :
    (adviseIf enabled content s).session =
      s.recordAll (LogRecord.advisoryIf enabled content) := by
  cases enabled with
  | false => rfl
  | true => rfl

/-- The switch is read if it is on or off already, and else decided from the environment. -/
theorem advisoriesEnabled_eq (s : Session) :
    advisoriesEnabled s =
      { reply := s.advisories.getD s.advisoriesNow
        session := { s with advisories := some (s.advisories.getD s.advisoriesNow) } } := by
  obtain ⟨clock, environment, files, verbosity, logPath, filter, advisories⟩ := s
  cases advisories with
  | none => rfl
  | some enabled => rfl

theorem advise_eq (content : String) (s : Session) :
    advise content s =
      adviseIf (s.advisories.getD s.advisoriesNow) content
        { s with advisories := some (s.advisories.getD s.advisoriesNow) } :=
  Action.bind_eq_of_silent (advisoriesEnabled_eq s)

/-- A filter that is installed already stays. -/
theorem installFilter_eq (s : Session) :
    installFilter s =
      { reply := if s.filter.isSome then .error {} else .ok ()
        session := { s with filter := s.filter.or (some (.ofEnvironment s.environment)) } } := by
  obtain ⟨clock, environment, files, verbosity, logPath, filter, advisories⟩ := s
  cases filter with
  | none => rfl
  | some filter => rfl

/-- The end of a start: it says that it is done. -/
theorem done_eq {settings : Settings} {s : Session} (hverbosity : s.verbosity = settings.verbosity) :
    (do
      debug ("packhost initialized (verbosity: " ++ toString settings.verbosity ++
        ", deprecation warnings: " ++ toString settings.advisories ++ ")")
      return .ok () : Action (Except BoundaryError Unit)) s =
      { reply := .ok ()
        console := Entry.ofStart none settings
        session := s.recordAll (LogRecord.ofStart none settings) } := by
  refine (Action.bind_eq (debug_eq _ s) rfl).trans ?_
  simp [Entry.ofStart, LogRecord.ofStart, hverbosity]

/-- Once the log is set up, a start installs the filter if there is none, and then says so. -/
theorem start_of_ok {settings : Settings} {s ready : Session}
    (h : configureLog settings.verbosity settings.logFile s = { reply := .ok (), session := ready })
    (hverbosity : ready.verbosity = settings.verbosity) :
    start settings s =
      { reply := .ok ()
        console := Entry.ofStart ready.filter settings
        session := ({ ready with filter := ready.filter.or (some (.ofEnvironment ready.environment)) } :
          Session).recordAll (LogRecord.ofStart ready.filter settings) } := by
  refine (Action.bind_eq_of_silent h).trans ((Action.bind_eq_of_silent (installFilter_eq ready)).trans ?_)
  cases hfilter : ready.filter with
  | none => exact done_eq hverbosity
  | some filter =>
    let installed : Session :=
      { ready with filter := (some filter).or (some (.ofEnvironment ready.environment)) }
    have hwarned : (installed.recordAll [.warning (FilterInstalled.message {})]).verbosity =
        settings.verbosity := (verbosity_recordAll installed _).trans hverbosity
    simp only [Option.isSome_some, if_true]
    exact Eq.trans (Action.bind_eq (warn_eq _ installed) (done_eq hwarned)) rfl

theorem start_of_error {settings : Settings} {s ready : Session} {e : LogError}
    (h : configureLog settings.verbosity settings.logFile s = { reply := .error e, session := ready }) :
    start settings s = { reply := .error (.logging e.message), session := ready } := by
  unfold start
  rw [Action.bind_eq_of_silent h]
  rfl

/-- The session that is set up as a start asks, before the start says that it is done. -/
def started (s : Session) (settings : Settings) (files : FileTree) : Session :=
  { s with
    files
    verbosity := settings.verbosity
    logPath := settings.logFile.or s.logPath
    filter := s.filter.or (some (.ofEnvironment s.environment)) }

/-- A start sets the session up and says that it did, or it leaves the log where it was. -/
theorem start_cases (settings : Settings) (s : Session) :
    (∃ files, SetUp settings.logFile s.files files ∧ start settings s =
      { reply := .ok ()
        console := Entry.ofStart s.filter settings
        session := (s.started settings files).recordAll (LogRecord.ofStart s.filter settings) }) ∨
    ∃ files e, SetUp none s.files files ∧ start settings s =
      { reply := .error e, session := { s with files, verbosity := settings.verbosity } } := by
  obtain ⟨files, hsetUp, heq⟩ | ⟨files, e, hsetUp, heq⟩ :=
    configureLog_cases settings.verbosity settings.logFile s
  · exact .inl ⟨files, hsetUp, start_of_ok heq rfl⟩
  · exact .inr ⟨files, .logging e.message, hsetUp, start_of_error heq⟩

/-- Loading the settings changes nothing. -/
theorem loadSettings_eq (s : Session) :
    loadSettings s =
      { reply := Settings.ofEnvironment s.environment
        console := (loadSettings s).console
        session := s } := by
  have hreply : (loadSettings s).reply = Settings.ofEnvironment s.environment :=
    Settings.result_load s.environment
  rw [← hreply]
  rfl

theorem startFromEnvironment_of_error {s : Session} {e : InvalidSetting}
    (hload : Settings.ofEnvironment s.environment = .error e) :
    startFromEnvironment s =
      { reply := .error (.settings e), console := (loadSettings s).console, session := s } := by
  refine (Action.bind_eq (loadSettings_eq s) rfl).trans ?_
  simp [hload]

theorem startFromEnvironment_of_ok {s : Session} {settings : Settings}
    (hload : Settings.ofEnvironment s.environment = .ok settings) :
    startFromEnvironment s =
      { reply := (start settings s).reply.map fun _ => settings
        console := (loadSettings s).console ++ (start settings s).console
        session := (start settings s).session } := by
  refine (Action.bind_eq (loadSettings_eq s) rfl).trans ?_
  simp only [hload]
  cases hreply : (start settings s).reply with
  | ok done => simp [hreply, Except.map]
  | error e => simp [hreply, Except.map]

/-- A change of the files from outside, which may fail. -/
theorem session_changeFiles {f : FileTree → Except FileError FileTree} (s : Session)
    (hf : ∀ next, f s.files = .ok next → s.files.KeepsDirectories next) :
    ∃ files, (changeFiles f s).session = { s with files } ∧ s.files.KeepsDirectories files := by
  rw [changeFiles]
  split
  · next files hok => exact ⟨files, rfl, hf files hok⟩
  · exact ⟨s.files, rfl, .refl s.files⟩

end Session

/-! ## Any step -/

namespace Step

open FileTree

/-- A session in which the log is set up as a step asks that is taken in an earlier session, and in
which nothing is recorded yet. -/
structure Prepares (step : Step) (s ready : Session) : Prop where
  clock : ready.clock = s.clock
  logPath : ready.logPath = (step.namedLog? s).or s.logPath
  directories : s.files.KeepsDirectories ready.files
  anew : ∀ p ∈ step.namedLog? s, ∀ place, ready.files.LeadsTo (.ofPath p) place →
    ready.files.at? place = none
  kept : ∀ place, step.Spares place s →
    (∀ p ∈ step.namedLog? s, ¬ ready.files.LeadsTo (.ofPath p) place) →
    ready.files.contentAt? place = s.files.contentAt? place

namespace Prepares

variable {step : Step} {s ready : Session}

/-- A log that is set up at the path that the step names, if it names one. -/
theorem of_setUp {path : Option String} (hnamed : step.namedLog? s = path)
    (hclock : ready.clock = s.clock) (hlogPath : ready.logPath = path.or s.logPath)
    (hfiles : SetUp path s.files ready.files) : step.Prepares s ready := by
  subst hnamed
  exact ⟨hclock, hlogPath, hfiles.directories, hfiles.anew, fun place _ => hfiles.kept place⟩

/-- A step that names no log and changes nothing that matters to the log. -/
theorem of_eq (hnamed : step.namedLog? s = none) (hclock : ready.clock = s.clock)
    (hlogPath : ready.logPath = s.logPath) (hfiles : ready.files = s.files) :
    step.Prepares s ready := by
  refine of_setUp hnamed hclock hlogPath ?_
  rw [hfiles]
  exact .refl s.files

/-- A step from outside is nothing but a change of the files. -/
theorem of_outside {files : FileTree} (hnamed : step.namedLog? s = none) (houtside : step.isOutside)
    (hrun : (step.run s).session = { s with files })
    (hdirectories : s.files.KeepsDirectories files) : step.Prepares s { s with files } := by
  refine ⟨rfl, ?_, hdirectories, ?_, ?_⟩
  · rw [hnamed]
    rfl
  · intro p hp
    rw [hnamed] at hp
    cases hp
  · intro place hspares _
    have hcontent := hspares houtside
    rw [hrun] at hcontent
    exact hcontent

end Prepares

/-- A step sets the log up, if it does, and then appends its records. -/
theorem exists_prepares (step : Step) (s : Session) :
    ∃ ready, step.Prepares s ready ∧ (step.run s).session = ready.recordAll (step.records s) := by
  cases step with
  | verbosity => exact ⟨s, .of_eq rfl rfl rfl rfl, rfl⟩
  | setVerbosity level => exact ⟨{ s with verbosity := level }, .of_eq rfl rfl rfl rfl, rfl⟩
  | logPath => exact ⟨s, .of_eq rfl rfl rfl rfl, rfl⟩
  | configureLog level path =>
    obtain ⟨files, hsetUp, heq⟩ | ⟨files, e, hsetUp, heq⟩ := Session.configureLog_cases level path s
    · let ready : Session := { s with files, verbosity := level, logPath := path.or s.logPath }
      have hnamed : (configureLog level path).namedLog? s = path := by rw [namedLog?, heq]
      exact ⟨ready, .of_setUp hnamed rfl rfl hsetUp, congrArg Outcome.session heq⟩
    · let ready : Session := { s with files, verbosity := level }
      have hnamed : (configureLog level path).namedLog? s = none := by rw [namedLog?, heq]
      exact ⟨ready, .of_setUp hnamed rfl rfl hsetUp, congrArg Outcome.session heq⟩
  | installFilter =>
    let ready : Session := { s with filter := s.filter.or (some (.ofEnvironment s.environment)) }
    exact ⟨ready, .of_eq rfl rfl rfl rfl, congrArg Outcome.session (Session.installFilter_eq s)⟩
  | record source message => exact ⟨s, .of_eq rfl rfl rfl rfl, rfl⟩
  | debug message =>
    exact ⟨s, .of_eq rfl rfl rfl rfl, congrArg Outcome.session (Session.debug_eq message s)⟩
  | warn message => exact ⟨s, .of_eq rfl rfl rfl rfl, rfl⟩
  | start settings =>
    obtain ⟨files, hsetUp, heq⟩ | ⟨files, e, hsetUp, heq⟩ := Session.start_cases settings s
    · have hnamed : (start settings).namedLog? s = settings.logFile := by rw [namedLog?, heq]
      refine ⟨s.started settings files, .of_setUp hnamed rfl rfl hsetUp, ?_⟩
      rw [records, heq]
      exact congrArg Outcome.session heq
    · let ready : Session := { s with files, verbosity := settings.verbosity }
      have hnamed : (start settings).namedLog? s = none := by rw [namedLog?, heq]
      refine ⟨ready, .of_setUp hnamed rfl rfl hsetUp, ?_⟩
      rw [records, heq]
      exact congrArg Outcome.session heq
  | startFromEnvironment =>
    cases hload : Settings.ofEnvironment s.environment with
    | error e =>
      have heq := Session.startFromEnvironment_of_error hload
      have hnamed : startFromEnvironment.namedLog? s = none := by rw [namedLog?, heq]
      refine ⟨s, .of_eq hnamed rfl rfl rfl, ?_⟩
      rw [records, heq]
      exact congrArg Outcome.session heq
    | ok settings =>
      have hsame := Session.startFromEnvironment_of_ok hload
      obtain ⟨files, hsetUp, heq⟩ | ⟨files, e, hsetUp, heq⟩ := Session.start_cases settings s
      · rw [heq] at hsame
        have hnamed : startFromEnvironment.namedLog? s = settings.logFile := by
          rw [namedLog?, hsame]
          rfl
        refine ⟨s.started settings files, .of_setUp hnamed rfl rfl hsetUp, ?_⟩
        rw [records, hsame]
        exact congrArg Outcome.session hsame
      · let ready : Session := { s with files, verbosity := settings.verbosity }
        rw [heq] at hsame
        have hnamed : startFromEnvironment.namedLog? s = none := by
          rw [namedLog?, hsame]
          rfl
        refine ⟨ready, .of_setUp hnamed rfl rfl hsetUp, ?_⟩
        rw [records, hsame]
        exact congrArg Outcome.session hsame
  | loadSettings => exact ⟨s, .of_eq rfl rfl rfl rfl, rfl⟩
  | setVariable key value =>
    let ready := s.withVariable key value
    cases value with
    | none => exact ⟨ready, .of_eq rfl rfl rfl rfl, rfl⟩
    | some value => exact ⟨ready, .of_eq rfl rfl rfl rfl, rfl⟩
  | advisoriesEnabled =>
    let ready : Session := { s with advisories := some (s.advisories.getD s.advisoriesNow) }
    exact ⟨ready, .of_eq rfl rfl rfl rfl, congrArg Outcome.session (Session.advisoriesEnabled_eq s)⟩
  | advisoriesNow => exact ⟨s, .of_eq rfl rfl rfl rfl, rfl⟩
  | advise content =>
    let ready : Session := { s with advisories := some (s.advisories.getD s.advisoriesNow) }
    have hrun := congrArg Outcome.session (Session.advise_eq content s)
    rw [Session.session_adviseIf] at hrun
    exact ⟨ready, .of_eq rfl rfl rfl rfl, hrun⟩
  | adviseIf enabled content =>
    exact ⟨s, .of_eq rfl rfl rfl rfl, Session.session_adviseIf enabled content s⟩
  | compute events => exact ⟨s, .of_eq rfl rfl rfl rfl, rfl⟩
  | fileContent path => exact ⟨s, .of_eq rfl rfl rfl rfl, rfl⟩
  | writeFile path content =>
    obtain ⟨files, hrun, hdirectories⟩ :=
      Session.session_changeFiles (f := (·.write (.ofPath path) content)) s
        fun next => keepsDirectories_of_change_eq_ok
    exact ⟨{ s with files }, .of_outside rfl rfl hrun hdirectories, hrun⟩
  | makeDirectories path =>
    have hdirectories := (makeDirectories_keeps s.files (.ofPath path)).1
    exact ⟨_, .of_outside rfl rfl rfl hdirectories, rfl⟩
  | removeFile path =>
    obtain ⟨files, hrun, hdirectories⟩ :=
      Session.session_changeFiles (f := (·.remove (.ofPath path))) s
        fun next => keepsDirectories_of_remove_eq_ok
    exact ⟨{ s with files }, .of_outside rfl rfl hrun hdirectories, hrun⟩
  | look path => exact ⟨s, .of_eq rfl rfl rfl rfl, rfl⟩

end Step

end HostBoundary
