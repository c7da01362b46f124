-- SUMMARY: The switch of advisories is latched: all steps that ask for it see the same, which the environment decided at the first of them.
import HostBoundary.Proofs.Session.Effects

/-!
# The switch of advisories

Whether advisories are on is decided once, from the environment as it is when a step first asks. Every
step that asks later sees the same. All other steps neither read the switch nor change it: they would go
on in the same way whatever it was.
-/

namespace HostBoundary

/-! ## Ignoring the switch -/

/-- The outcome with another switch in its session. -/
def Outcome.withSwitch {α : Type} (o : Outcome α) (switch : Option Bool) : Outcome α :=
  { o with session := { o.session with advisories := switch } }

namespace Action

variable {α β : Type} {x : Action α} {f : α → Action β}

/-- An action that neither reads the switch nor changes it. -/
def IgnoresSwitch (x : Action α) : Prop :=
  ∀ (s : Session) (switch : Option Bool), x { s with advisories := switch } = (x s).withSwitch switch

namespace IgnoresSwitch

theorem pure (a : α) : IgnoresSwitch (Pure.pure a : Action α) := fun _ _ => rfl

theorem bind (hx : x.IgnoresSwitch) (hf : ∀ a, (f a).IgnoresSwitch) : (x >>= f).IgnoresSwitch := by
  intro s switch
  simp only [Bind.bind, hx s switch]
  simp only [Outcome.withSwitch, hf _ _ switch]

/-- What is done with the session as it is may depend on all of it but the switch. -/
theorem current_bind {f : Session → Action β} (hsame : ∀ s switch, f { s with advisories := switch } = f s)
    (hf : ∀ s, (f s).IgnoresSwitch) : (current >>= f).IgnoresSwitch := by
  intro s switch
  rw [bind_eq_of_silent (current_eq _), bind_eq_of_silent (current_eq s), hsame]
  exact hf s s switch

theorem modify {f : Session → Session}
    (hf : ∀ s switch, f { s with advisories := switch } = { f s with advisories := switch }) :
    (Action.modify f).IgnoresSwitch := by
  intro s switch
  simp only [Action.modify, Outcome.withSwitch, hf s switch]

theorem say (entry : Entry) : (Action.say entry).IgnoresSwitch := fun _ _ => rfl

theorem ofTraced (computation : Traced α) : (Action.ofTraced computation).IgnoresSwitch :=
  fun _ _ => rfl

end IgnoresSwitch

end Action

namespace Session

theorem recorded_switch (s : Session) (source message : String) (switch : Option Bool) :
    ({ s with advisories := switch } : Session).recorded source message =
      { s.recorded source message with advisories := switch } := by
  unfold recorded
  simp only
  split
  · rfl
  · split
    · rfl
    · rfl

theorem ignoresSwitch_record (source message : String) : (record source message).IgnoresSwitch :=
  .modify fun s switch => recorded_switch s source message switch

theorem ignoresSwitch_debug (message : String) : (debug message).IgnoresSwitch := by
  refine .bind (ignoresSwitch_record _ _) fun _ => .current_bind (fun _ _ => rfl) fun s => ?_
  by_cases h : 1 ≤ s.verbosity
  · simpa only [if_pos h] using .say _
  · simpa only [if_neg h] using .pure _

theorem ignoresSwitch_warn (message : String) : (warn message).IgnoresSwitch :=
  .bind (ignoresSwitch_record _ _) fun _ => .say _

theorem ignoresSwitch_moveLog (path : String) : (moveLog path).IgnoresSwitch := by
  intro s switch
  unfold moveLog
  simp only
  split
  · rfl
  · split
    · rfl
    · split
      · rfl
      · rfl

theorem ignoresSwitch_configureLog (level : Nat) (path : Option String) :
    (configureLog level path).IgnoresSwitch := by
  refine .bind (.modify fun _ _ => rfl) fun _ => ?_
  cases path with
  | none => exact .pure _
  | some path => exact ignoresSwitch_moveLog path

theorem ignoresSwitch_installFilter : installFilter.IgnoresSwitch := by
  refine .current_bind (fun _ _ => rfl) fun s => ?_
  cases s.filter with
  | none => exact .bind (.modify fun _ _ => rfl) fun _ => .pure _
  | some filter => exact .pure _

theorem ignoresSwitch_adviseIf (enabled : Bool) (content : String) :
    (adviseIf enabled content).IgnoresSwitch := by
  cases enabled with
  | false => exact .ofTraced _
  | true => exact .bind (ignoresSwitch_record _ _) fun _ => .say _

theorem ignoresSwitch_start (settings : Settings) : (start settings).IgnoresSwitch := by
  have hdone (message : String) : (do
      debug message
      return .ok () : Action (Except BoundaryError Unit)).IgnoresSwitch :=
    .bind (ignoresSwitch_debug message) fun _ => .pure _
  refine .bind (ignoresSwitch_configureLog _ _) fun outcome => ?_
  cases outcome with
  | error e => exact .pure _
  | ok done =>
    refine .bind ignoresSwitch_installFilter fun outcome => ?_
    cases outcome with
    | error e => exact .bind (ignoresSwitch_warn _) fun _ => hdone _
    | ok done => exact hdone _

theorem ignoresSwitch_loadSettings : loadSettings.IgnoresSwitch :=
  .current_bind (fun _ _ => rfl) fun _ => .ofTraced _

theorem ignoresSwitch_startFromEnvironment : startFromEnvironment.IgnoresSwitch := by
  refine .bind ignoresSwitch_loadSettings fun outcome => ?_
  cases outcome with
  | error e => exact .pure _
  | ok settings =>
    refine .bind (ignoresSwitch_start settings) fun outcome => ?_
    cases outcome with
    | error e => exact .pure _
    | ok done => exact .pure _

theorem ignoresSwitch_changeFiles (f : FileTree → Except FileError FileTree) :
    (changeFiles f).IgnoresSwitch := by
  intro s switch
  unfold changeFiles
  simp only
  split
  · rfl
  · rfl

end Session

namespace Step

open Session

/-- A step that does not ask for the switch neither reads nor changes it. -/
theorem ignoresSwitch_run {step : Step} (h : step.asks = false) : step.run.IgnoresSwitch := by
  cases step with
  | verbosity | logPath | advisoriesNow | fileContent | look =>
    exact .current_bind (fun _ _ => rfl) fun _ => .pure _
  | setVerbosity level => exact .bind (.modify fun _ _ => rfl) fun _ => .pure _
  | configureLog level path => exact .bind (ignoresSwitch_configureLog level path) fun _ => .pure _
  | installFilter => exact .bind ignoresSwitch_installFilter fun _ => .pure _
  | record source message => exact .bind (ignoresSwitch_record source message) fun _ => .pure _
  | debug message => exact .bind (ignoresSwitch_debug message) fun _ => .pure _
  | warn message => exact .bind (ignoresSwitch_warn message) fun _ => .pure _
  | start settings => exact .bind (ignoresSwitch_start settings) fun _ => .pure _
  | startFromEnvironment => exact .bind ignoresSwitch_startFromEnvironment fun _ => .pure _
  | loadSettings => exact .bind ignoresSwitch_loadSettings fun _ => .pure _
  | setVariable key value =>
    refine .bind (.modify fun s switch => ?_) fun _ => .pure _
    cases value with
    | none => rfl
    | some value => rfl
  | advisoriesEnabled | advise => cases h
  | adviseIf enabled content => exact .bind (ignoresSwitch_adviseIf enabled content) fun _ => .pure _
  | compute events => exact .bind (.ofTraced _) fun _ => .pure _
  | writeFile path content => exact ignoresSwitch_changeFiles (·.write (.ofPath path) content)
  | makeDirectories path => exact fun _ _ => rfl
  | removeFile path => exact ignoresSwitch_changeFiles (·.remove (.ofPath path))

/-- What a step sees that asks for the switch: it replies whether advisories are on, or it does as a step
would that is told so. -/
def Observes (on : Bool) (s : Session) : Step → Prop
  | advisoriesEnabled => (advisoriesEnabled.run s).reply = .flag on
  | advise content => (advise content).run s = (adviseIf on content).run { s with advisories := some on }
  | _ => True

/-- A step that asks sees the switch as it is decided, and otherwise what the environment says. -/
theorem observes_getD (step : Step) (s : Session) :
    step.Observes (s.advisories.getD s.advisoriesNow) s := by
  cases step with
  | advisoriesEnabled => exact congrArg (fun o => Reply.flag o.reply) (advisoriesEnabled_eq s)
  | advise content => simp only [Observes, run, Bind.bind, advise_eq]
  | _ => trivial

end Step

namespace Session

variable {s : Session}

theorem advisories_run_of_asks_eq_false {step : Step} (h : step.asks = false) (s : Session) :
    (step.run s).session.advisories = s.advisories := by
  rw [advisories_run, Step.switch?, h]
  exact Option.or_none

/-- Before a step asks, nothing is decided. -/
theorem advisories_after_eq_none {steps : List Step} (hfresh : s.advisories = none)
    (h : ∀ step ∈ steps, step.asks = false) : (s.after steps).advisories = none := by
  have hnothing : gathered Step.switch? s steps = [] := by
    refine gathered_eq_nil fun step hstep t => ?_
    simp [Step.switch?, h step hstep]
  rw [advisories_after, hfresh, hnothing]
  rfl

/-- Once the switch is decided, it stays for the rest of the run. -/
theorem eachStep_advisories_eq_some {on : Bool} {steps : List Step} (h : s.advisories = some on) :
    EachStep (fun t _ => t.advisories = some on) s steps := by
  refine .of_kept h fun t step ht => ?_
  rw [advisories_run, ht]
  exact Option.some_or

/-- From the first step that asks for the switch on, all that ask for it see the same. -/
theorem eachStep_observes {first : Step} (hfirst : first.asks) (s : Session) (later : List Step) :
    EachStep (fun t step => step.asks → step.Observes (s.advisories.getD s.advisoriesNow) t) s
      (first :: later) := by
  have hdecided := advisories_run_of_asks hfirst s
  refine ⟨fun _ => first.observes_getD s, (eachStep_advisories_eq_some hdecided).imp ?_⟩
  intro t step ht _
  simpa only [ht, Option.getD_some] using step.observes_getD t

theorem advisories_eq_of_ofEnvironment {environment : Environment} {settings : Settings}
    (h : Settings.ofEnvironment environment = .ok settings) :
    settings.advisories = advisoriesOn (environment.get? Environment.advisoriesKey) :=
  (Settings.readFrom_iff.mp (Settings.ofEnvironment_eq_ok_iff.mp h)).2.2

/-- A start from the environment gives the settings of the environment as it is. -/
theorem advisories_eq_of_startFromEnvironment {settings : Settings}
    (h : (startFromEnvironment s).reply = .ok settings) : settings.advisories = s.advisoriesNow := by
  refine advisories_eq_of_ofEnvironment ?_
  cases hload : Settings.ofEnvironment s.environment with
  | error e =>
    rw [startFromEnvironment_of_error hload] at h
    cases h
  | ok found =>
    rw [startFromEnvironment_of_ok hload] at h
    cases hreply : (start found s).reply with
    | error e =>
      rw [hreply] at h
      cases h
    | ok done =>
      rw [hreply] at h
      cases h
      rfl

/-- All steps that ask for the switch see the same, which is what the environment said when the first of
them asked. No other step reads the switch or changes it. As long as the variable stays, the settings of
a start from the environment say the same. -/
theorem switch_latched (s : Session) (before later : List Step) (first : Step)
    (hfresh : s.advisories = none) (hbefore : ∀ step ∈ before, step.asks = false)
    (hfirst : first.asks) :
    let on := advisoriesOn ((s.after before).environment.get? Environment.advisoriesKey)
    EachStep (fun t step => step.asks → step.Observes on t) (s.after before) (first :: later) ∧
      (∀ step : Step, step.asks = false →
        step.run.IgnoresSwitch ∧ ∀ t, (step.run t).session.advisories = t.advisories) ∧
      (EachStep (fun t _ => t.environment.get? Environment.advisoriesKey =
          s.environment.get? Environment.advisoriesKey) s (before ++ first :: later) →
        EachStep (fun t step => ∀ settings, step = .startFromEnvironment →
          (startFromEnvironment t).reply = .ok settings → settings.advisories = on)
          s (before ++ first :: later)) := by
  intro on
  have hnone : (s.after before).advisories = none := advisories_after_eq_none hfresh hbefore
  have hon : (s.after before).advisories.getD (s.after before).advisoriesNow = on := by
    rw [hnone]
    rfl
  refine ⟨hon ▸ eachStep_observes hfirst _ later, ?_, ?_⟩
  · exact fun step h => ⟨Step.ignoresSwitch_run h, advisories_run_of_asks_eq_false h⟩
  · intro hsame
    have hthen := (eachStep_append.mp hsame).2.1
    refine hsame.imp fun t step ht settings _ hreply => ?_
    rw [advisories_eq_of_startFromEnvironment hreply, advisoriesNow, ht, ← hthen]

/-- Settings that say otherwise, an advisory that is shown anyhow and the end of the variable make no
difference to a switch that the first advisory found off. While the variable was there, a start from the
environment gave it as off, too. -/
theorem switched_off_stays_off :
    let s : Session := { clock := "now", environment := [("PACKHOST_DEP_WARNINGS", "0")] }
    let first := Step.advise "old"
    let before := [Step.start { advisories := true }, .adviseIf true "loud"]
    let cleared := [Step.setVariable "PACKHOST_DEP_WARNINGS" none, .advisoriesEnabled]
    EachStep (fun t step => step.asks → step.Observes false t) (s.after before) (first :: cleared) ∧
      EachStep (fun t step => ∀ settings, step = .startFromEnvironment →
        (startFromEnvironment t).reply = .ok settings → settings.advisories = false)
        s (before ++ [first, .startFromEnvironment]) := by
  intro s first before cleared
  have hbefore : ∀ step ∈ before, step.asks = false := by decide
  exact ⟨(switch_latched s before cleared first rfl hbefore rfl).1,
    (switch_latched s before [.startFromEnvironment] first rfl hbefore rfl).2.2 (by decide +kernel)⟩

end Session

end HostBoundary
