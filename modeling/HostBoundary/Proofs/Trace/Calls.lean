-- SUMMARY: Everything that calls of the library report is of level debug or below, and so does not pass the filter that is used by default.
import HostBoundary.Advisory
import HostBoundary.Failure.Report
import HostBoundary.Plugin
import HostBoundary.Trace.Filter

/-!
# Events of calls

Bringing payloads into shape, sorting and reporting failures, making plugins, loading settings and
writing advisories are reported by events. All of these are for whoever looks for faults of the
program: none is more important than level debug. The default filter shows warnings and errors only.
-/

namespace HostBoundary

/-! ## Computations whose events are details -/

/-- An event is of level debug or below. -/
def Event.IsMinor (event : Event) : Prop := Level.debug.rank ≤ event.level.rank

theorem Event.isMinor_of_debug {event : Event} (h : event.level = .debug) : event.IsMinor := by
  simp [IsMinor, h]

theorem Event.isMinor_of_trace {event : Event} (h : event.level = .trace) : event.IsMinor := by
  simp [IsMinor, h, Level.rank]

/-- No minor event passes the filter that is used where none is given. -/
theorem TraceFilter.passes_default_of_isMinor {event : Event} (h : event.IsMinor) :
    TraceFilter.default.passes event = false := by
  have hwarn : ¬ event.level.rank ≤ Level.warn.rank := Nat.not_le.mpr (Nat.lt_of_lt_of_le (by decide) h)
  simp only [passes, deciding?, default, List.foldl_cons, List.foldl_nil, better]
  split
  · exact decide_eq_false hwarn
  · rfl

namespace Traced

variable {α β : Type}

/-- A computation that reports minor events only. -/
def IsDiscreet (x : Traced α) : Prop := ∀ event ∈ x.events, event.IsMinor

namespace IsDiscreet

theorem pure (a : α) : (Pure.pure a : Traced α).IsDiscreet := List.forall_mem_nil _

theorem report {event : Event} (h : event.IsMinor) : (Traced.report event).IsDiscreet :=
  List.forall_mem_singleton.mpr h

theorem bind {x : Traced α} {f : α → Traced β} (hx : x.IsDiscreet) (hf : ∀ a, (f a).IsDiscreet) :
    (x >>= f).IsDiscreet :=
  List.forall_mem_append.mpr ⟨hx, hf x.result⟩

end IsDiscreet

end Traced

/-! ## Crossings -/

namespace Crossing

variable {α β : Type}

theorem isDiscreet_pure (a : α) : (pure a : Crossing α).run.IsDiscreet := .pure _

theorem isDiscreet_failWith {error : BoundaryError} {event : Event} (h : event.IsMinor) :
    (failWith error event : Crossing α).run.IsDiscreet :=
  List.forall_mem_singleton.mpr h

theorem isDiscreet_bind {x : Crossing α} {f : α → Crossing β} (hx : x.run.IsDiscreet)
    (hf : ∀ a, (f a).run.IsDiscreet) : (x >>= f).run.IsDiscreet := by
  refine .bind hx fun outcome => ?_
  cases outcome with
  | ok a => exact hf a
  | error e => exact .pure _

/-- A crossing of a list goes on item by item, with what has crossed already in reverse. -/
theorem isDiscreet_mapM_loop {f : α → Crossing β} (hf : ∀ a, (f a).run.IsDiscreet) (items : List α)
    (crossed : List β) : (List.mapM.loop f items crossed).run.IsDiscreet := by
  induction items generalizing crossed with
  | nil => exact isDiscreet_pure _
  | cons item rest ih => exact isDiscreet_bind (hf item) fun b => ih (b :: crossed)

end Crossing

namespace Payload

open Crossing

theorem isDiscreet_reject {α : Type} (expected : String) (received : Payload) :
    (reject expected received : Crossing α).run.IsDiscreet :=
  isDiscreet_failWith (Event.isMinor_of_debug rfl)

theorem isDiscreet_readText (text : String) : (readText text).run.IsDiscreet := by
  unfold readText
  cases Json.parse text with
  | ok doc => exact isDiscreet_pure doc
  | error e => exact isDiscreet_failWith (Event.isMinor_of_debug rfl)

theorem isDiscreet_toBytes (payload : Payload) : payload.toBytes.run.IsDiscreet := by
  cases payload with
  | text | bytes => exact isDiscreet_pure _
  | undefined | null | bool | number | array | object => exact isDiscreet_reject _ _

theorem isDiscreet_toDocument (payload : Payload) : payload.toDocument.run.IsDiscreet := by
  cases payload with
  | array | object => exact isDiscreet_pure _
  | text | bytes => exact isDiscreet_readText _
  | undefined | null | bool | number => exact isDiscreet_reject _ _

theorem isDiscreet_toWire (payload : Option Payload) : (toWire payload).run.IsDiscreet := by
  cases payload with
  | none => exact isDiscreet_pure _
  | some payload =>
    cases payload with
    | bytes content => exact isDiscreet_reject _ _
    | text content =>
      by_cases hempty : content = ""
      · subst hempty
        exact isDiscreet_pure _
      · simp only [toWire]
        exact isDiscreet_pure _
    | undefined | null | bool | number | array | object => exact isDiscreet_pure _

end Payload

namespace Plugin

open Crossing

theorem isDiscreet_toWire (plugin : Plugin) : plugin.toWire.run.IsDiscreet :=
  isDiscreet_bind (Payload.isDiscreet_toWire _) fun _ => isDiscreet_pure _

theorem isDiscreet_allToWire (plugins : ItemOrList Plugin) : (allToWire plugins).run.IsDiscreet :=
  isDiscreet_mapM_loop isDiscreet_toWire plugins.toList []

end Plugin

/-! ## All calls -/

theorem Failure.isDiscreet_classify (value : Json) : (classify value).IsDiscreet :=
  .bind (.report (Event.isMinor_of_trace rfl)) fun _ => .pure _

theorem Report.isDiscreet_trace (value : Json) : (trace value).IsDiscreet :=
  .bind (Failure.isDiscreet_classify value) fun _ => .pure _

theorem PluginFactory.isDiscreet_construct {α : Type} (factory : PluginFactory α) (args : α) :
    (factory.construct args).IsDiscreet :=
  .bind (.report (Event.isMinor_of_trace rfl)) fun _ => .pure _

theorem Settings.isDiscreet_load (environment : Environment) : (load environment).IsDiscreet := by
  unfold load
  split
  · exact .pure _
  · exact .bind (.report (Event.isMinor_of_debug rfl)) fun _ => .pure _

theorem Advisory.isDiscreet_writeTo (sink : Sink) (colour enabled : Bool) (content : String) :
    (writeTo sink colour enabled content).IsDiscreet := by
  cases enabled with
  | false => exact .bind (.report (Event.isMinor_of_trace rfl)) fun _ => .pure _
  | true => exact .pure _

/-- The events of calls of the library, one after the other. -/
inductive Called : List Event → Prop where
  | nothing : Called []
  | andThen {events more : List Event} : Called events → Called more → Called (events ++ more)
  | toBytes (payload : Payload) : Called payload.toBytes.run.events
  | toDocument (payload : Payload) : Called payload.toDocument.run.events
  | toWire (payload : Option Payload) : Called (Payload.toWire payload).run.events
  | classify (value : Json) : Called (Failure.classify value).events
  | report (value : Json) : Called (Report.trace value).events
  | construct {α : Type} (factory : PluginFactory α) (args : α) :
      Called (factory.construct args).events
  | pluginToWire (plugin : Plugin) : Called plugin.toWire.run.events
  | pluginsToWire (plugins : ItemOrList Plugin) : Called (Plugin.allToWire plugins).run.events
  | loadSettings (environment : Environment) : Called (Settings.load environment).events
  | writeAdvisory (sink : Sink) (colour enabled : Bool) (content : String) :
      Called (Advisory.writeTo sink colour enabled content).events

/-- Whatever is called, only minor events are reported. -/
theorem Called.isMinor {events : List Event} (h : Called events) : ∀ event ∈ events, event.IsMinor := by
  induction h with
  | nothing => exact List.forall_mem_nil _
  | andThen _ _ ih ihmore => exact List.forall_mem_append.mpr ⟨ih, ihmore⟩
  | toBytes payload => exact payload.isDiscreet_toBytes
  | toDocument payload => exact payload.isDiscreet_toDocument
  | toWire payload => exact Payload.isDiscreet_toWire payload
  | classify value => exact Failure.isDiscreet_classify value
  | report value => exact Report.isDiscreet_trace value
  | construct factory args => exact factory.isDiscreet_construct args
  | pluginToWire plugin => exact plugin.isDiscreet_toWire
  | pluginsToWire plugins => exact Plugin.isDiscreet_allToWire plugins
  | loadSettings environment => exact Settings.isDiscreet_load environment
  | writeAdvisory sink colour enabled content =>
    exact Advisory.isDiscreet_writeTo sink colour enabled content

end HostBoundary
