-- SUMMARY: Two runs that ask for different verbosities write the same log, reply the same and differ on the console in debug messages at most.
import HostBoundary.Proofs.Files.Alike
import HostBoundary.Proofs.Session.Restamped
import HostBoundary.Proofs.Session.Steps
import Mathlib.Data.List.Forall2

/-!
# Verbosity and the log

Two sessions take the same steps, but each asks for verbosities of its own, and goes by a clock of its own.
All that is not verbosity stays alike in them: a step reads verbosity only to reply with it and to decide
whether a debug message is shown. A start that asks for a verbosity and then says that it is done is no
exception, as it shows what the settings of the start say.
-/

namespace HostBoundary

variable {clock other : String}

/-! ## Sessions, steps and outcomes -/

/-- The sessions go by these clocks and are the same but for verbosity and the times of records. -/
structure Session.Alike (clock other : String) (s t : Session) : Prop where
  clock_eq : s.clock = clock
  other_eq : t.clock = other
  environment : s.environment = t.environment
  files : s.files.Alike (Restamped clock other) t.files
  logPath : s.logPath = t.logPath
  filter : s.filter = t.filter
  advisories : s.advisories = t.advisories

/-- The steps are the same, but may ask for different verbosities. -/
inductive Step.Alike : Step → Step → Prop where
  | setVerbosity (level level' : Nat) : Alike (.setVerbosity level) (.setVerbosity level')
  | configureLog (level level' : Nat) (path : Option String) :
    Alike (.configureLog level path) (.configureLog level' path)
  | same (step : Step) : Alike step step

/-- The replies are the same but for the times of records in the content of a file. -/
inductive Reply.Alike (clock other : String) : Reply → Reply → Prop where
  | same (reply : Reply) : Alike clock other reply reply
  | content {content content' : Option String}
    (h : Option.Rel (Session.Restamped clock other) content content') :
    Alike clock other (.content content) (.content content')
  | node {node node' : Option Node}
    (h : Option.Rel (Node.Alike (Session.Restamped clock other)) node node') :
    Alike clock other (.node node) (.node node')

/-- The replies are related, the console shows the same, and the sessions that are left are alike. -/
structure Outcome.Alike {α : Type} (clock other : String) (R : α → α → Prop) (o o' : Outcome α) :
    Prop where
  reply : R o.reply o'.reply
  console : o.console = o'.console
  session : o.session.Alike clock other o'.session

namespace Session.Alike

variable {s t : Session}

/-- Sessions that are the same but for verbosity and clock. -/
theorem of_verbosity (s : Session) (clock : String) (level : Nat) :
    s.Alike s.clock clock { s with clock, verbosity := level } where
  clock_eq := rfl
  other_eq := rfl
  environment := rfl
  files := .refl .same s.files
  logPath := rfl
  filter := rfl
  advisories := rfl

theorem withFiles {files files' : FileTree} (h : s.Alike clock other t)
    (hfiles : files.Alike (Restamped clock other) files') :
    Alike clock other { s with files } { t with files := files' } := { h with files := hfiles }

theorem withVerbosity (h : s.Alike clock other t) (level level' : Nat) :
    Alike clock other { s with verbosity := level } { t with verbosity := level' } := { h with }

theorem withFilter {filter filter' : Option TraceFilter} (h : s.Alike clock other t)
    (hfilter : filter = filter') :
    Alike clock other { s with filter } { t with filter := filter' } := { h with filter := hfilter }

theorem withAdvisories {switch switch' : Option Bool} (h : s.Alike clock other t)
    (hswitch : switch = switch') :
    Alike clock other { s with advisories := switch } { t with advisories := switch' } :=
  { h with advisories := hswitch }

theorem advisoriesNow_eq (h : s.Alike clock other t) : s.advisoriesNow = t.advisoriesNow := by
  rw [advisoriesNow, advisoriesNow, h.environment]

/-- If the switch is decided now, it is decided alike. -/
theorem switch_eq (h : s.Alike clock other t) :
    s.advisories.getD s.advisoriesNow = t.advisories.getD t.advisoriesNow := by
  rw [h.advisories, h.advisoriesNow_eq]

/-! ## Records -/

theorem recorded (h : s.Alike clock other t) (source message : String) :
    (s.recorded source message).Alike clock other (t.recorded source message) := by
  obtain rfl := h.clock_eq
  obtain rfl := h.other_eq
  unfold Session.recorded
  cases hpath : t.logPath with
  | none =>
    rw [h.logPath.trans hpath]
    exact h
  | some path =>
    have happend : FileTree.Alike.Changes (Restamped s.clock t.clock)
        (s.files.append (.ofPath path) (logLine s.clock source message))
        (t.files.append (.ofPath path) (logLine t.clock source message)) :=
      h.files.change (fun _ _ hcontent => hcontent.record source message)
        (.record (.same "") source message) _
    simp only [h.logPath.trans hpath]
    generalize s.files.append (.ofPath path) (logLine s.clock source message) = result,
      t.files.append (.ofPath path) (logLine t.clock source message) = result' at happend ⊢
    cases happend with
    | error e => exact h
    | ok hfiles => exact { h with files := hfiles, logPath := rfl }

theorem recordAll (h : s.Alike clock other t) (records : List LogRecord) :
    (s.recordAll records).Alike clock other (t.recordAll records) := by
  induction records generalizing s t with
  | nil => exact h
  | cons r rest ih => exact ih (h.recorded r.source r.message)

/-! ## Operations -/

theorem moveLog (h : s.Alike clock other t) (path : String) :
    (Session.moveLog path s).Alike clock other Eq (Session.moveLog path t) := by
  have hmake := h.files.makeDirectories (.ofPath (Location.parentPath path))
  unfold Session.moveLog
  dsimp only
  generalize s.files.makeDirectories (.ofPath (Location.parentPath path)) = made,
    t.files.makeDirectories (.ofPath (Location.parentPath path)) = made' at hmake ⊢
  obtain ⟨files, result⟩ := made
  obtain ⟨files', result'⟩ := made'
  obtain ⟨rfl, hfiles⟩ : result = result' ∧ files.Alike (Restamped clock other) files' := hmake
  cases result with
  | error e => exact ⟨rfl, rfl, h.withFiles hfiles⟩
  | ok done =>
    have hnode := hfiles.node? (.ofPath path)
    have hremove := hfiles.remove (.ofPath path)
    dsimp only
    generalize files.node? (.ofPath path) = node?, files'.node? (.ofPath path) = node'? at hnode ⊢
    generalize files.remove (.ofPath path) = removed, files'.remove (.ofPath path) = removed' at hremove ⊢
    cases hnode with
    | none => exact ⟨rfl, rfl, { h.withFiles hfiles with logPath := rfl }⟩
    | some hfound =>
      cases hremove with
      | error e => exact ⟨rfl, rfl, h.withFiles hfiles⟩
      | ok hnext => exact ⟨rfl, rfl, { h.withFiles hnext with logPath := rfl }⟩

/-- The log is set up alike, whatever verbosities are asked for. -/
theorem configureLog (h : s.Alike clock other t) (level level' : Nat) (path : Option String) :
    (Session.configureLog level path s).Alike clock other Eq (Session.configureLog level' path t) := by
  have hset := h.withVerbosity level level'
  cases path with
  | none => exact ⟨rfl, rfl, hset⟩
  | some path =>
    have heq (u : Session) (level : Nat) : Session.configureLog level (some path) u =
        Session.moveLog path { u with verbosity := level } := Action.bind_eq_of_silent rfl
    rw [heq, heq]
    exact hset.moveLog path

/-- With the same settings a start asks for the same verbosity in both sessions, and so shows the same. -/
theorem start (h : s.Alike clock other t) (settings : Settings) :
    (Session.start settings s).Alike clock other Eq (Session.start settings t) := by
  have hlog := h.configureLog settings.verbosity settings.verbosity settings.logFile
  have hcases := configureLog_cases settings.verbosity settings.logFile
  -- The log is set up in both sessions or in neither: the mixed cases contradict that the replies are equal.
  obtain ⟨files, -, heq⟩ | ⟨files, e, -, heq⟩ := hcases s
  · obtain ⟨files', -, heq'⟩ | ⟨files', e', -, heq'⟩ := hcases t
    · rw [heq, heq'] at hlog
      have hfilter : s.filter.or (some (.ofEnvironment s.environment)) =
          t.filter.or (some (.ofEnvironment t.environment)) := by
        rw [h.filter, h.environment]
      have hrecords : LogRecord.ofStart s.filter settings = LogRecord.ofStart t.filter settings := by
        rw [h.filter]
      rw [start_of_ok heq rfl, start_of_ok heq' rfl]
      simp only [hrecords]
      exact ⟨rfl, congrArg (Entry.ofStart · settings) h.filter, (hlog.session.withFilter hfilter).recordAll _⟩
    · rw [heq, heq'] at hlog
      cases hlog.reply
  · obtain ⟨files', -, heq'⟩ | ⟨files', e', -, heq'⟩ := hcases t
    · rw [heq, heq'] at hlog
      cases hlog.reply
    · rw [heq, heq'] at hlog
      cases hlog.reply
      rw [start_of_error heq, start_of_error heq']
      exact ⟨rfl, rfl, hlog.session⟩

theorem console_ofTraced {α : Type} (h : s.Alike clock other t) (computation : Traced α) :
    (Action.ofTraced computation s).console = (Action.ofTraced computation t).console := by
  unfold Action.ofTraced
  rw [h.filter]

theorem console_loadSettings (h : s.Alike clock other t) :
    (Session.loadSettings s).console = (Session.loadSettings t).console := by
  change (Action.ofTraced (Settings.load s.environment) s).console =
    (Action.ofTraced (Settings.load t.environment) t).console
  rw [h.environment, h.console_ofTraced]

theorem loadSettings (h : s.Alike clock other t) :
    (Session.loadSettings s).Alike clock other Eq (Session.loadSettings t) := by
  have hconsole := h.console_loadSettings
  rw [loadSettings_eq s, loadSettings_eq t]
  exact ⟨congrArg Settings.ofEnvironment h.environment, hconsole, h⟩

theorem startFromEnvironment (h : s.Alike clock other t) :
    (Session.startFromEnvironment s).Alike clock other Eq (Session.startFromEnvironment t) := by
  have hconsole := h.console_loadSettings
  cases hload : Settings.ofEnvironment s.environment with
  | error e =>
    rw [startFromEnvironment_of_error hload, startFromEnvironment_of_error (h.environment ▸ hload)]
    exact ⟨rfl, hconsole, h⟩
  | ok settings =>
    have hstart := h.start settings
    rw [startFromEnvironment_of_ok hload, startFromEnvironment_of_ok (h.environment ▸ hload)]
    exact ⟨by rw [hstart.reply], by rw [hconsole, hstart.console], hstart.session⟩

theorem installFilter (h : s.Alike clock other t) :
    (Session.installFilter s).Alike clock other Eq (Session.installFilter t) := by
  rw [installFilter_eq, installFilter_eq]
  refine ⟨?_, rfl, h.withFilter ?_⟩
  · simp only [h.filter]
  · rw [h.filter, h.environment]

theorem advisoriesEnabled (h : s.Alike clock other t) :
    (Session.advisoriesEnabled s).Alike clock other Eq (Session.advisoriesEnabled t) := by
  rw [advisoriesEnabled_eq, advisoriesEnabled_eq]
  exact ⟨h.switch_eq, rfl, h.withAdvisories (congrArg some h.switch_eq)⟩

theorem adviseIf (h : s.Alike clock other t) (enabled : Bool) (content : String) :
    (Session.adviseIf enabled content s).Alike clock other Eq (Session.adviseIf enabled content t) := by
  refine ⟨rfl, ?_, ?_⟩
  · cases enabled with
    | false => exact h.console_ofTraced _
    | true => rfl
  · rw [session_adviseIf, session_adviseIf]
    exact h.recordAll _

theorem advise (h : s.Alike clock other t) (content : String) :
    (Session.advise content s).Alike clock other Eq (Session.advise content t) := by
  rw [advise_eq, advise_eq, h.switch_eq]
  exact (h.withAdvisories rfl).adviseIf _ content

theorem changeFiles {f : FileTree → Except FileError FileTree} (h : s.Alike clock other t)
    (hf : FileTree.Alike.Changes (Restamped clock other) (f s.files) (f t.files)) :
    (Session.changeFiles f s).Alike clock other Eq (Session.changeFiles f t) := by
  unfold Session.changeFiles
  generalize f s.files = result, f t.files = result' at hf ⊢
  cases hf with
  | error e => exact ⟨rfl, rfl, h⟩
  | ok hfiles => exact ⟨rfl, rfl, h.withFiles hfiles⟩

theorem withVariable (h : s.Alike clock other t) (key : String) (value : Option String) :
    (s.withVariable key value).Alike clock other (t.withVariable key value) := by
  cases value with
  | none => exact { h with environment := congrArg (Assoc.erase · key) h.environment }
  | some value => exact { h with environment := congrArg (Assoc.insert key value) h.environment }

end Session.Alike

namespace Outcome.Alike

variable {α : Type} {o o' : Outcome Reply} {s t : Session}

/-- Outcomes with the same result give the same reply. -/
theorem replied {x y : Action α} (h : (x s).Alike clock other Eq (y t)) (reply : α → Reply) :
    ((do return reply (← x) : Action Reply) s).Alike clock other (Reply.Alike clock other)
      ((do return reply (← y) : Action Reply) t) where
  reply := by
    simp only [Action.reply_bind, Action.reply_pure]
    rw [h.reply]
    exact .same _
  console := by simpa using h.console
  session := by simpa using h.session

theorem of_eq (h : o.Alike clock other Eq o') : o.Alike clock other (Reply.Alike clock other) o' :=
  ⟨h.reply ▸ .same _, h.console, h.session⟩

end Outcome.Alike

/-! ## Steps and runs -/

/-- The console shows the same at a step, or a debug message is shown in one of two runs only. -/
inductive Step.ShowsAlike : Step → List Entry → List Entry → Prop where
  | same (step : Step) (shown : List Entry) : ShowsAlike step shown shown
  | first (message : String) : ShowsAlike (.debug message) [.debug message] []
  | second (message : String) : ShowsAlike (.debug message) [] [.debug message]

/-- What two runs have in common at a step, of which these are the outcomes. -/
structure Step.Agrees (clock other : String) (step : Step) (o o' : Outcome Reply) : Prop where
  session : o.session.Alike clock other o'.session
  reply : step ≠ .verbosity → o.reply.Alike clock other o'.reply
  console : step.ShowsAlike o.console o'.console

theorem Step.Agrees.of_alike {step : Step} {o o' : Outcome Reply}
    (h : o.Alike clock other (Reply.Alike clock other) o') : step.Agrees clock other o o' :=
  ⟨h.session, fun _ => h.reply, h.console ▸ .same step _⟩

namespace Session.Alike

variable {s t : Session} {step step' : Step}

/-- A debug message is recorded whether it is shown or not. -/
theorem debug (h : s.Alike clock other t) (message : String) :
    (Step.debug message).Agrees clock other ((Step.debug message).run s) ((Step.debug message).run t) where
  session := by
    have hsession := congrArg Outcome.session (debug_eq message s)
    have hsession' := congrArg Outcome.session (debug_eq message t)
    exact hsession ▸ hsession' ▸ h.recordAll [.debug message]
  reply := fun _ => .same .nothing
  console := by
    simp only [Step.run, Action.console_bind, Action.console_pure, List.append_nil, debug_eq]
    split
    · split
      · exact .same _ _
      · exact .first message
    · split
      · exact .second message
      · exact .same _ _

/-- Sessions that are alike stay alike at a step, which replies the same but for verbosity, and shows the same
but for a debug message. -/
theorem run (h : s.Alike clock other t) (hstep : step.Alike step') :
    step.Agrees clock other (step.run s) (step'.run t) := by
  cases hstep with
  | setVerbosity level level' => exact .of_alike ⟨.same .nothing, rfl, h.withVerbosity level level'⟩
  | configureLog level level' path => exact .of_alike ((h.configureLog level level' path).replied .logSet)
  | same =>
    cases step with
    | verbosity => exact ⟨h, fun hother => absurd rfl hother, .same _ []⟩
    | setVerbosity level => exact .of_alike ⟨.same .nothing, rfl, h.withVerbosity level level⟩
    | logPath => exact .of_alike (.of_eq ⟨congrArg Reply.text h.logPath, rfl, h⟩)
    | configureLog level path => exact .of_alike ((h.configureLog level level path).replied .logSet)
    | installFilter => exact .of_alike (h.installFilter.replied .filterSet)
    | record source message => exact .of_alike ⟨.same .nothing, rfl, h.recorded source message⟩
    | debug message => exact h.debug message
    | warn message => exact .of_alike ⟨.same .nothing, rfl, h.recordAll [.warning message]⟩
    | start settings => exact .of_alike ((h.start settings).replied .started)
    | startFromEnvironment => exact .of_alike (h.startFromEnvironment.replied .startedWith)
    | loadSettings => exact .of_alike (h.loadSettings.replied .loaded)
    | setVariable key value => exact .of_alike ⟨.same .nothing, rfl, h.withVariable key value⟩
    | advisoriesEnabled => exact .of_alike (h.advisoriesEnabled.replied .flag)
    | advisoriesNow => exact .of_alike (.of_eq ⟨congrArg Reply.flag h.advisoriesNow_eq, rfl, h⟩)
    | advise content => exact .of_alike ((h.advise content).replied fun _ => .nothing)
    | adviseIf enabled content => exact .of_alike ((h.adviseIf enabled content).replied fun _ => .nothing)
    | compute events =>
      have hshown : (Action.ofTraced { result := (), events } s).Alike clock other Eq
          (Action.ofTraced { result := (), events } t) := ⟨rfl, h.console_ofTraced _, h⟩
      exact .of_alike (hshown.replied fun _ => .nothing)
    | fileContent path => exact .of_alike ⟨.content (h.files.read? (.ofPath path)), rfl, h⟩
    | writeFile path content =>
      have hwrite := h.files.write (.ofPath path) (.same content)
      exact .of_alike (.of_eq (h.changeFiles (f := (·.write (.ofPath path) content)) hwrite))
    | makeDirectories path =>
      obtain ⟨houtcome, hfiles⟩ := h.files.makeDirectories (.ofPath path)
      have hreply := congrArg (fun outcome => Reply.flag outcome.isOk) houtcome
      exact .of_alike (.of_eq ⟨hreply, rfl, h.withFiles hfiles⟩)
    | removeFile path =>
      have hremove := h.files.remove (.ofPath path)
      exact .of_alike (.of_eq (h.changeFiles (f := (·.remove (.ofPath path))) hremove))
    | look path => exact .of_alike ⟨.node (h.files.node? (.ofPath path)), rfl, h⟩

theorem after {steps steps' : List Step} (h : s.Alike clock other t)
    (hsteps : List.Forall₂ Step.Alike steps steps') :
    (s.after steps).Alike clock other (t.after steps') := by
  induction hsteps generalizing s t with
  | nil => exact h
  | cons hstep _ ih => exact ih (h.run hstep).session

/-- Files that are alike have the same content once time stamps are hidden. -/
theorem hidden_eq (h : s.Alike clock other t) (hclock : TimeStamp.IsLogTime clock)
    (hother : TimeStamp.IsLogTime other) (shown : String) (location : Location) :
    (s.files.read? location).map (TimeStamp.hideInLog shown) =
      (t.files.read? location).map (TimeStamp.hideInLog shown) := by
  have hread := h.files.read? location
  generalize s.files.read? location = content?, t.files.read? location = content'? at hread ⊢
  cases hread with
  | none => rfl
  | some hcontent => exact congrArg some (hcontent.hideInLog_eq hclock hother shown)

end Session.Alike

namespace Session

/-- Two sessions start alike, but for verbosity and clock, and take the same steps, but for the verbosities
that these ask for. Then, after any step, the log goes to the same path and all files hold the same, but
for the time stamps of records; the step replies the same, unless it asks for the verbosity, and shows the
same, unless it is a debug message that is shown in one of the sessions only. -/
theorem verbosity_shows_debug_only (s : Session) (clock : String) (level : Nat) (before before' : List Step)
    (step step' : Step) (hbefore : List.Forall₂ Step.Alike before before') (hstep : step.Alike step') :
    let o := step.run (s.after before)
    let o' := step'.run (({ s with clock, verbosity := level } : Session).after before')
    o.session.logPath = o'.session.logPath ∧
      (∀ location, Option.Rel (Restamped s.clock clock) (o.session.files.read? location)
        (o'.session.files.read? location)) ∧
      (TimeStamp.IsLogTime s.clock → TimeStamp.IsLogTime clock → ∀ shown location,
        (o.session.files.read? location).map (TimeStamp.hideInLog shown) =
          (o'.session.files.read? location).map (TimeStamp.hideInLog shown)) ∧
      (step ≠ .verbosity → o.reply.Alike s.clock clock o'.reply) ∧
      step.ShowsAlike o.console o'.console := by
  intro o o'
  have hagrees : step.Agrees s.clock clock o o' :=
    ((Alike.of_verbosity s clock level).after hbefore).run hstep
  exact ⟨hagrees.session.logPath, hagrees.session.files.read?,
    fun hclock hother => hagrees.session.hidden_eq hclock hother, hagrees.reply, hagrees.console⟩

/-- A session that shows no debug messages and one that shows all write the same log, an hour apart. -/
theorem quiet_and_loud_log_alike :
    let s : Session := { clock := "2024-05-01 08:00:00" }
    let quiet := [Step.configureLog 0 (some "run.log"), .warn "slow", .setVerbosity 0]
    let loud := [Step.configureLog 2 (some "run.log"), .warn "slow", .setVerbosity 1]
    let o := (Step.debug "done").run (s.after quiet)
    let o' := (Step.debug "done").run
      (({ s with clock := "2024-05-01 09:00:00", verbosity := 1 } : Session).after loud)
    List.Forall₂ Step.Alike quiet loud ∧ (Step.debug "done").Alike (.debug "done") ∧
      TimeStamp.IsLogTime s.clock ∧ TimeStamp.IsLogTime "2024-05-01 09:00:00" ∧
      (o.session.files.read? (.ofPath "run.log")).map (TimeStamp.hideInLog "time") =
        (o'.session.files.read? (.ofPath "run.log")).map (TimeStamp.hideInLog "time") ∧
      (Step.debug "done").ShowsAlike o.console o'.console ∧
      o.console = [] ∧ o'.console = [.debug "done"] := by
  intro s quiet loud o o'
  have hsteps : List.Forall₂ Step.Alike quiet loud :=
    .cons (.configureLog 0 2 _) (.cons (.same _) (.cons (.setVerbosity 0 1) .nil))
  have hclock : TimeStamp.IsLogTime s.clock := by decide
  have hother : TimeStamp.IsLogTime "2024-05-01 09:00:00" := by decide
  obtain ⟨-, -, hlog, -, hconsole⟩ := verbosity_shows_debug_only s "2024-05-01 09:00:00" 1 quiet loud
    (.debug "done") (.debug "done") hsteps (.same _)
  have hlog := hlog hclock hother "time" (.ofPath "run.log")
  exact ⟨hsteps, .same _, hclock, hother, hlog, hconsole, by decide +kernel, by decide +kernel⟩

end Session

end HostBoundary
