-- SUMMARY: What cannot cross is reported by exactly one event, which agrees with the error; what crosses is not reported.
import HostBoundary.Proofs.Plugin

/-!
# Rejections

A payload can be rejected for its kind, and text for not being a document. Each of the three shapes that a
payload can be brought into reports its own rejections, so it matters that none is reported twice on the way,
or not at all. The wire form of a structured payload is made from a text that is there already, which is never
rejected. A list of plugins reports one rejection at most, however many of its plugins would be rejected.
-/

namespace HostBoundary

/-- An event tells of a rejection. It names the kinds that the error names, of which the one that was received
is given, or it has the words that the error has. -/
inductive TellsOf (received : String) : BoundaryError → Event → Prop where
  | kind (expected : String) :
      TellsOf received (.unexpectedKind expected received)
        { level := .debug
          target := "packhost_bridge::normalize"
          message := "rejected boundary value"
          details := [("expected", .quoted expected), ("received", .quoted received)] }
  | text (reason : String) :
      TellsOf received (.malformedPayload reason)
        { level := .debug
          target := "packhost_bridge::normalize"
          message := "payload is not valid JSON"
          details := [("error", .plain reason)] }

namespace Payload

open Crossing

variable {α : Type}

theorem reportsOnce_reject (expected : String) (received : Payload) :
    ReportsOnce (TellsOf received.kind) (reject expected received : Crossing α) :=
  .failWith (.kind expected)

/-- A text that is no document is reported with the words of the reader, whatever it was received as. -/
theorem reportsOnce_readText (received text : String) :
    ReportsOnce (TellsOf received) (readText text) := by
  unfold readText
  cases Json.parse text with
  | ok doc => exact .pure doc
  | error e => exact .failWith (.text e.message)

theorem reportsOnce_toBytes (payload : Payload) :
    ReportsOnce (TellsOf payload.kind) payload.toBytes := by
  cases payload with
  | text | bytes => exact .pure _
  | undefined | null | bool | number | array | object => exact reportsOnce_reject _ _

theorem reportsOnce_toDocument (payload : Payload) :
    ReportsOnce (TellsOf payload.kind) payload.toDocument := by
  cases payload with
  | array | object => exact .pure _
  | text content => exact reportsOnce_readText _ content
  | bytes content => exact reportsOnce_readText _ _
  | undefined | null | bool | number => exact reportsOnce_reject _ _

/-- The wire form of a structured payload is the byte form of its compact text, so it cannot be rejected. -/
theorem toWire_of_structured {payload : Payload} {doc : Json} (h : payload.structured? = some doc) :
    toWire (some payload) = some <$> toBytes (.text doc.toText) := by
  have hbytes : toBytes (.text doc.toText) = pure doc.toBytes := by
    rw [toBytes, Json.toText, utf8, String.toList_ofList, Json.toBytes]
  rw [hbytes, map_pure]
  cases payload with
  | undefined | null | text | bytes => cases h
  | bool | number | array | object =>
    cases h
    rfl

theorem reportsOnce_toWire (payload : Option Payload) :
    ReportsOnce (fun e event => ∃ given ∈ payload, TellsOf given.kind e event) (toWire payload) := by
  cases payload with
  | none => exact .pure none
  | some payload =>
    cases payload with
    | undefined | null => exact .pure none
    | bytes content =>
      exact (reportsOnce_reject "text or object" (bytes content)).imp fun e event htells => ⟨_, rfl, htells⟩
    | text content =>
      by_cases hempty : content = ""
      · subst hempty
        exact .pure none
      · rw [toWire_text hempty]
        exact .pure _
    | bool | number | array | object =>
      rw [toWire_of_structured rfl]
      exact .pure _

end Payload

namespace Plugin

open Crossing

theorem reportsOnce_toWire (plugin : Plugin) :
    ReportsOnce (fun e event => ∃ given ∈ plugin.options, TellsOf given.kind e event) plugin.toWire :=
  .bind (Payload.reportsOnce_toWire plugin.options) fun _ => .pure _

theorem reportsOnce_allToWire (plugins : ItemOrList Plugin) :
    ReportsOnce (fun e event => ∃ plugin ∈ plugins.toList, ∃ given ∈ plugin.options,
      TellsOf given.kind e event) (allToWire plugins) := by
  refine ReportsOnce.mapM fun plugin hplugin => ?_
  exact (reportsOnce_toWire plugin).imp fun e event htells => ⟨plugin, hplugin, htells⟩

end Plugin

open Crossing in
/-- Whatever is brought into whatever shape, nothing is reported if that succeeds, and exactly one event if it
fails. The event has the kinds or the words of the error, and the kind that was received is that of what was
given. For a list of plugins it is the kind of the options of one of them. -/
theorem rejections_reported_once :
    (∀ payload : Payload, ReportsOnce (TellsOf payload.kind) payload.toBytes ∧
      ReportsOnce (TellsOf payload.kind) payload.toDocument) ∧
      (∀ payload : Option Payload,
        ReportsOnce (fun e event => ∃ given ∈ payload, TellsOf given.kind e event)
          (Payload.toWire payload)) ∧
      ∀ plugins : ItemOrList Plugin,
        ReportsOnce (fun e event => ∃ plugin ∈ plugins.toList, ∃ given ∈ plugin.options,
          TellsOf given.kind e event) (Plugin.allToWire plugins) :=
  ⟨fun payload => ⟨payload.reportsOnce_toBytes, payload.reportsOnce_toDocument⟩,
    Payload.reportsOnce_toWire, Plugin.reportsOnce_allToWire⟩

end HostBoundary
