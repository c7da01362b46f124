-- SUMMARY: What a session shows on the console at each step, told from the steps before it; no event is among it unless a filter is asked for.
import HostBoundary.Proofs.Advisory
import HostBoundary.Proofs.Session.Effects
import HostBoundary.Proofs.Trace.Calls

/-!
# The console

What a step shows depends on the verbosity that was asked for last, on whether a filter is installed and
on the switch of advisories. While the environment asks for no filter, the one that is installed lets
no event of a call pass, so nothing is shown but debug messages, warnings and advisories.
-/

namespace HostBoundary

/-! ## Texts -/

/-- Entries make a text, and no event is among them. -/
structure Entry.Make (colour : Bool) (time : String) (entries : List Entry) (text : List Char) : Prop where
  text_eq : entries.flatMap (Entry.text colour time) = text
  event_not_mem : ∀ reported, Entry.event reported ∉ entries

/-- The line of a debug message on the console. Its label is bold and blue. -/
def Entry.debugLine (colour : Bool) (message : String) : List Char :=
  ((if colour then "\x1b[1;34mDEBUG:\x1b[0m" else "DEBUG:") ++ " " ++ message ++ "\n").toList

/-- The line of a warning on the console. Its label is bold and yellow. -/
def Entry.warningLine (colour : Bool) (message : String) : List Char :=
  ((if colour then "\x1b[1;33mwarning:\x1b[0m" else "warning:") ++ " " ++ message ++ "\n").toList

/-- The lines of an advisory on the console: its content, which is bold and yellow, and how to turn advisories
off. -/
def Entry.advisoryBlock (colour : Bool) (content : String) : List Char :=
  (if colour then "\x1b[1;33m".toList ++ Style.warning.restart content.toList ++ "\x1b[0m".toList
    else content.toList) ++
  "\n    Set env `PACKHOST_DEP_WARNINGS` to 'false' to temporarily disable deprecation warnings.\n\n".toList

theorem Entry.labelled_eq {style : Style} {colour : Bool} {label shown : String}
    (h : style.emphasize colour label.toList = shown.toList) (message : String) :
    labelled style colour label message = (shown ++ " " ++ message ++ "\n").toList := by
  simp [labelled, h]

theorem Entry.labelled_debug (colour : Bool) (message : String) :
    labelled .debug colour "DEBUG:" message = debugLine colour message := by
  cases colour with
  | false => exact labelled_eq rfl message
  | true => exact labelled_eq (by decide) message

theorem Entry.labelled_warning (colour : Bool) (message : String) :
    labelled .warning colour "warning:" message = warningLine colour message := by
  cases colour with
  | false => exact labelled_eq rfl message
  | true => exact labelled_eq (by decide) message

theorem Entry.advisoryText_eq (colour : Bool) (content : String) :
    Advisory.text colour content = advisoryBlock colour content := by
  have htrailer : Advisory.trailer = ("\n    Set env `PACKHOST_DEP_WARNINGS` to 'false' to temporarily " ++
    "disable deprecation warnings.\n\n").toList := by decide +kernel
  rw [Advisory.text_eq, htrailer]
  cases colour with
  | false => rfl
  | true => rfl

namespace Entry.Make

variable {colour : Bool} {time : String} {entries more : List Entry} {text rest : List Char}

theorem nil : Make colour time [] [] := ⟨rfl, fun _ => List.not_mem_nil⟩

theorem append (h : Make colour time entries text) (hmore : Make colour time more rest) :
    Make colour time (entries ++ more) (text ++ rest) where
  text_eq := by rw [List.flatMap_append, h.text_eq, hmore.text_eq]
  event_not_mem := by
    intro reported hmem
    exact (List.mem_append.mp hmem).elim (h.event_not_mem reported) (hmore.event_not_mem reported)

theorem debug (message : String) : Make colour time [.debug message] (debugLine colour message) :=
  ⟨(List.append_nil _).trans (labelled_debug colour message), by simp⟩

theorem warning (message : String) : Make colour time [.warning message] (warningLine colour message) :=
  ⟨(List.append_nil _).trans (labelled_warning colour message), by simp⟩

theorem advisory (content : String) : Make colour time [.advisory content] (advisoryBlock colour content) :=
  ⟨(List.append_nil _).trans (advisoryText_eq colour content), by simp⟩

theorem ite {p : Prop} [Decidable p] (h : Make colour time entries text) :
    Make colour time (if p then entries else []) (if p then text else []) := by
  split
  · exact h
  · exact .nil

/-- A reply that is made of the outcome of an action adds nothing. -/
theorem replied {α β : Type} {x : Action α} {reply : α → β} {s : Session}
    (h : Make colour time (x s).console text) :
    Make colour time ((do return reply (← x) : Action β) s).console text := by
  simpa using h

end Entry.Make

namespace Step

/-- What a start shows that is done: a warning if a filter was installed before, and then that it is
done, if its settings ask for debug messages. -/
def startText (colour installed : Bool) (settings : Settings) : List Char :=
  (if installed then
    Entry.warningLine colour ("Failed to install tracing subscriber: " ++
      "a global default trace dispatcher has already been set")
  else []) ++
    if 1 ≤ settings.verbosity then
      Entry.debugLine colour ("packhost initialized (verbosity: " ++ toString settings.verbosity ++
        ", deprecation warnings: " ++ toString settings.advisories ++ ")")
    else []

/-- What a step shows that gives a reply, at a verbosity, where a filter is installed or not and advisories
are on or not. -/
def shownText (colour : Bool) (verbosity : Nat) (installed on : Bool) : Step → Reply → List Char
  | debug message, _ => if 1 ≤ verbosity then Entry.debugLine colour message else []
  | warn message, _ => Entry.warningLine colour message
  | advise content, _ => if on then Entry.advisoryBlock colour content else []
  | adviseIf enabled content, _ => if enabled then Entry.advisoryBlock colour content else []
  | start settings, .started (.ok ()) => startText colour installed settings
  | startFromEnvironment, .startedWith (.ok settings) => startText colour installed settings
  | _, _ => []

theorem make_ofStart {colour : Bool} {time : String} (filter : Option TraceFilter) (settings : Settings) :
    Entry.Make colour time (Entry.ofStart filter settings) (startText colour filter.isSome settings) :=
  .append (.ite (.warning _)) (.ite (.debug _))

end Step

/-! ## Sessions without a filter of their own -/

theorem TraceFilter.ofEnvironment_of_unset {environment : Environment}
    (h : environment.get? key = none) : ofEnvironment environment = default := by
  simp [ofEnvironment, h]

theorem Step.eq_of_filter?_eq_some {step : Step} {s : Session} {filter : TraceFilter}
    (h : step.filter? s = some filter) : filter = .ofEnvironment s.environment := by
  cases step with
  | installFilter => exact (Option.some.inj h).symm
  | start settings =>
    simp only [filter?] at h
    split at h
    · exact (Option.some.inj h).symm
    · cases h
  | startFromEnvironment =>
    simp only [filter?] at h
    split at h
    · exact (Option.some.inj h).symm
    · cases h
  | _ => cases h

namespace Session

variable {s : Session} {step : Step}

/-- The environment asks for no filter, and none was asked for when one was installed. -/
structure IsQuiet (s : Session) : Prop where
  unset : s.environment.get? TraceFilter.key = none
  filter_eq : ∀ filter, s.filter = some filter → filter = .default

theorem console_changeFiles (f : FileTree → Except FileError FileTree) (s : Session) :
    (changeFiles f s).console = [] := by
  unfold changeFiles
  split
  · rfl
  · rfl

namespace IsQuiet

/-- Only a step that sets the variable of the filter could end that. -/
theorem run (h : s.IsQuiet) (hstep : ∀ value, step ≠ .setVariable TraceFilter.key (some value)) :
    (step.run s).session.IsQuiet where
  unset := by
    rw [environment_run]
    cases step with
    | setVariable key value =>
      cases value with
      | none => exact (Assoc.get?_erase _ _ _).trans (by rw [h.unset, ite_self])
      | some value =>
        have hother : key ≠ TraceFilter.key := by
          rintro rfl
          exact hstep value rfl
        exact (Assoc.get?_insert _ _ _ _).trans ((if_neg hother).trans h.unset)
    | _ => exact h.unset
  filter_eq := by
    intro filter hfilter
    rw [filter_run, Option.or_eq_some_iff] at hfilter
    obtain hold | ⟨-, hnew⟩ := hfilter
    · exact h.filter_eq filter hold
    · exact (Step.eq_of_filter?_eq_some hnew).trans (TraceFilter.ofEnvironment_of_unset h.unset)

theorem after {steps : List Step} (h : s.IsQuiet)
    (hsteps : ∀ value, .setVariable TraceFilter.key (some value) ∉ steps) : (s.after steps).IsQuiet := by
  induction steps generalizing s with
  | nil => exact h
  | cons step rest ih =>
    refine ih (h.run ?_) fun value hmem => hsteps value (List.mem_cons_of_mem _ hmem)
    rintro value rfl
    exact hsteps value List.mem_cons_self

/-- A call that reports minor events only shows nothing. -/
theorem console_ofTraced {α : Type} {x : Traced α} (h : s.IsQuiet) (hx : x.IsDiscreet) :
    (Action.ofTraced x s).console = [] := by
  unfold Action.ofTraced
  cases hfilter : s.filter with
  | none => rfl
  | some filter =>
    cases h.filter_eq filter hfilter
    simp only [List.map_eq_nil_iff, List.filter_eq_nil_iff, Bool.not_eq_true]
    exact fun event hmem => TraceFilter.passes_default_of_isMinor (hx event hmem)

theorem make_adviseIf (h : s.IsQuiet) (colour : Bool) (time : String) (enabled : Bool) (content : String) :
    Entry.Make colour time (adviseIf enabled content s).console
      (if enabled then Entry.advisoryBlock colour content else []) := by
  cases enabled with
  | false =>
    have hsilent : (adviseIf false content s).console = [] :=
      h.console_ofTraced (.report (Event.isMinor_of_trace rfl))
    simp only [hsilent]
    exact .nil
  | true => exact .advisory content

theorem console_loadSettings (h : s.IsQuiet) : (loadSettings s).console = [] :=
  h.console_ofTraced (Settings.isDiscreet_load s.environment)

/-- What a step shows where the environment asks for no filter. A computation is to consist of calls. -/
theorem make_run (h : s.IsQuiet) (colour : Bool) (time : String) {on : Bool}
    (hcalls : ∀ events, step = .compute events → Called events)
    (hon : step.asks → on = s.advisories.getD s.advisoriesNow) :
    Entry.Make colour time (step.run s).console
      (step.shownText colour s.verbosity s.filter.isSome on (step.run s).reply) := by
  cases step with
  | verbosity | setVerbosity | logPath | record | setVariable | advisoriesNow | fileContent |
      makeDirectories | look => exact .nil
  | configureLog level path =>
    apply Entry.Make.replied
    obtain ⟨files, -, heq⟩ | ⟨files, e, -, heq⟩ := configureLog_cases level path s
    · simp only [heq]
      exact .nil
    · simp only [heq]
      exact .nil
  | installFilter =>
    apply Entry.Make.replied
    simp only [installFilter_eq]
    exact .nil
  | debug message =>
    apply Entry.Make.replied
    simp only [debug_eq]
    exact .ite (.debug message)
  | warn message => exact .warning message
  | start settings =>
    have hreply : ((Step.start settings).run s).reply = .started (Session.start settings s).reply := rfl
    apply Entry.Make.replied
    simp only [hreply]
    obtain ⟨files, -, heq⟩ | ⟨files, e, -, heq⟩ := start_cases settings s
    · simp only [heq]
      exact Step.make_ofStart s.filter settings
    · simp only [heq]
      exact .nil
  | startFromEnvironment =>
    have hreply : (Step.startFromEnvironment.run s).reply =
        .startedWith (Session.startFromEnvironment s).reply := rfl
    apply Entry.Make.replied
    simp only [hreply]
    cases hload : Settings.ofEnvironment s.environment with
    | error e =>
      simp only [startFromEnvironment_of_error hload, h.console_loadSettings]
      exact .nil
    | ok settings =>
      simp only [startFromEnvironment_of_ok hload, h.console_loadSettings]
      obtain ⟨files, -, heq⟩ | ⟨files, e, -, heq⟩ := start_cases settings s
      · simp only [heq]
        exact Step.make_ofStart s.filter settings
      · simp only [heq]
        exact .nil
  | loadSettings =>
    apply Entry.Make.replied
    simp only [h.console_loadSettings]
    exact .nil
  | advisoriesEnabled =>
    apply Entry.Make.replied
    simp only [advisoriesEnabled_eq]
    exact .nil
  | advise content =>
    have hdecided : IsQuiet { s with advisories := some (s.advisories.getD s.advisoriesNow) } :=
      ⟨h.unset, h.filter_eq⟩
    cases hon rfl
    apply Entry.Make.replied
    simp only [advise_eq]
    exact hdecided.make_adviseIf colour time _ content
  | adviseIf enabled content => exact .replied (h.make_adviseIf colour time enabled content)
  | compute events =>
    have hsilent := h.console_ofTraced (x := { result := (), events }) (hcalls events rfl).isMinor
    apply Entry.Make.replied
    simp only [hsilent]
    exact .nil
  | writeFile path content =>
    have hsilent := console_changeFiles (·.write (.ofPath path) content) s
    exact hsilent ▸ .nil
  | removeFile path =>
    have hsilent := console_changeFiles (·.remove (.ofPath path)) s
    exact hsilent ▸ .nil

end IsQuiet

/-- What a step of a session shows, told from the steps before it: the verbosity is the one that was asked
for last, a filter is installed if one of them installed one, and the switch of advisories is as the first
step to ask for it found it. No event is shown. -/
theorem step_shows_lines (s : Session) (before : List Step) (step : Step) (colour : Bool) (time : String)
    (hunset : s.environment.get? TraceFilter.key = none)
    (hbefore : ∀ value, .setVariable TraceFilter.key (some value) ∉ before)
    (hfilter : s.filter = none) (hfresh : s.advisories = none)
    (hcalls : ∀ events, step = .compute events → Called events) :
    let outcome := step.run (s.after before)
    let verbosity := (gathered Step.namedVerbosity? s before).getLast?.getD s.verbosity
    let installed := !(gathered Step.filter? s before).isEmpty
    let on := (gathered Step.switch? s (before ++ [step])).head? == some true
    Entry.Make colour time outcome.console
      (step.shownText colour verbosity installed on outcome.reply) := by
  intro outcome verbosity installed on
  have hquiet : s.IsQuiet := ⟨hunset, by simp [hfilter]⟩
  have hverbosity : (s.after before).verbosity = verbosity := verbosity_after s before
  have hinstalled : (s.after before).filter.isSome = installed := by
    rw [filter_after, hfilter, Option.none_or]
    simp only [installed]
    cases gathered Step.filter? s before <;> rfl
  have hon : step.asks → on = (s.after before).advisories.getD (s.after before).advisoriesNow := by
    intro hasks
    have hafter := advisories_after s (before ++ [step])
    rw [after_append, hfresh, Option.none_or] at hafter
    have hdecided := hafter.symm.trans (advisories_run_of_asks hasks (s.after before))
    simp [on, hdecided]
  rw [← hverbosity, ← hinstalled]
  exact (hquiet.after hbefore).make_run colour time hcalls hon

/-- A second start warns that there is a filter; debug messages are shown as its settings ask for, and advisories
with the hint how to turn them off. A failure that is sorted there shows nothing. -/
theorem restart_shows_lines :
    let s : Session := { clock := "now" }
    let before := [Step.installFilter, .configureLog 2 none, .advise "old"]
    Entry.Make false "now" ((Step.start { verbosity := 1 }).run (s.after before)).console
        ("warning: Failed to install tracing subscriber: a global default trace dispatcher has already been " ++
          "set\nDEBUG: packhost initialized (verbosity: 1, deprecation warnings: true)\n").toList ∧
      Entry.Make true "now" ((Step.debug "late").run (s.after before)).console
        "\x1b[1;34mDEBUG:\x1b[0m late\n".toList ∧
      Entry.Make true "now" ((Step.warn "late").run (s.after before)).console
        "\x1b[1;33mwarning:\x1b[0m late\n".toList ∧
      Entry.Make false "now" ((Step.advise "new").run (s.after before)).console
        ("new\n    Set env `PACKHOST_DEP_WARNINGS` to 'false' to temporarily disable deprecation " ++
          "warnings.\n\n").toList ∧
      Entry.Make false "now"
        ((Step.compute (Failure.classify .null).events).run (s.after before)).console [] := by
  intro s before
  have hbefore : ∀ value, .setVariable TraceFilter.key (some value) ∉ before := by simp [before]
  have hstart := step_shows_lines s before (.start { verbosity := 1 }) false "now" rfl hbefore rfl rfl
    (fun events h => by cases h)
  have hdebug := step_shows_lines s before (.debug "late") true "now" rfl hbefore rfl rfl
    (fun events h => by cases h)
  have hwarn := step_shows_lines s before (.warn "late") true "now" rfl hbefore rfl rfl
    (fun events h => by cases h)
  have hadvise := step_shows_lines s before (.advise "new") false "now" rfl hbefore rfl rfl
    (fun events h => by cases h)
  have hcompute := step_shows_lines s before (.compute (Failure.classify .null).events) false "now" rfl hbefore
    rfl rfl (fun events h => by cases h; exact .classify .null)
  refine ⟨?_, ?_, ?_, ?_, hcompute⟩
  · exact ⟨hstart.text_eq.trans (by decide +kernel), hstart.event_not_mem⟩
  · exact ⟨hdebug.text_eq.trans (by decide +kernel), hdebug.event_not_mem⟩
  · exact ⟨hwarn.text_eq.trans (by decide +kernel), hwarn.event_not_mem⟩
  · exact ⟨hadvise.text_eq.trans (by decide +kernel), hadvise.event_not_mem⟩

end Session

end HostBoundary
