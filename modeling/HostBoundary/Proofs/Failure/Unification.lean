-- SUMMARY: What an untyped failure value is reported as, rule by rule, and that writing a report is writing that value.
import HostBoundary.Failure.Report
import HostBoundary.Proofs.Assoc

/-!
# Unification of failures

A bare text becomes an exception of that message. An object whose stack is a text, and not the empty
one, gets the stack for its message, where the message stands or at the end if there is none. Every
other value is reported as it came. `Unified` says so rule by rule.
-/

namespace HostBoundary

/-- A report is written as the value that it stands for. -/
theorem Report.write_eq (report : Report) : report.write = report.toJson.write := by
  cases report with
  | exception e => rfl
  | diagnostic d => rfl
  | other value => rfl

/-! ## Folding the stack -/

namespace Exception

theorem stack?_eq_some {e : Exception} {stack : String}
    (h : Assoc.get? e.fields "stack" = some (.string stack)) : e.stack? = some stack := by
  rw [stack?, Json.textField?, h]
  rfl

theorem get?_of_stack?_eq_some {e : Exception} {stack : String} (h : e.stack? = some stack) :
    Assoc.get? e.fields "stack" = some (.string stack) := by
  rw [stack?, Json.textField?, Option.bind_eq_some_iff] at h
  obtain ⟨value, hvalue, htext⟩ := h
  cases value with
  | string text =>
    cases htext
    exact hvalue
  | null | bool | number | array | object => cases htext

/-- A stack that is a text, and not the empty one, is put in the place of the message. -/
theorem foldStack_of_stack {e : Exception} {stack : String} (h : e.stack? = some stack)
    (hne : stack ≠ "") : e.foldStack = ⟨e.fields.insert "message" (.string stack)⟩ := by
  rw [foldStack, h]
  split
  · next heq => cases heq
  · next heq => exact absurd (Option.some.inj heq) hne
  · next heq => rw [Option.some.inj heq]

/-- Without such a stack an exception stays as it is. -/
theorem foldStack_of_no_stack {e : Exception} (h : ∀ stack, e.stack? = some stack → stack = "") :
    e.foldStack = e := by
  rw [foldStack]
  split
  · rfl
  · rfl
  · next stack hempty heq => exact absurd (h stack heq) hempty

end Exception

/-! ## Reports of objects -/

namespace Report

variable {fields : Fields}

/-- An object with a stack is an exception, and its stack is folded. -/
theorem ofJson_of_contains (h : Assoc.contains fields "stack") :
    ofJson (.object fields) = .exception (Exception.foldStack ⟨fields⟩) := by
  rw [ofJson, Failure.ofJson, if_pos h, Failure.unify]

/-- An object without a stack is reported as it came, whether it was rendered or not. -/
theorem toJson_ofJson_of_not_contains (h : ¬ Assoc.contains fields "stack") :
    (ofJson (.object fields)).toJson = .object fields := by
  rw [ofJson, Failure.ofJson, if_neg h]
  split
  · rfl
  · rfl

theorem toJson_ofJson_of_stack {stack : String}
    (h : Assoc.get? fields "stack" = some (.string stack)) (hne : stack ≠ "") :
    (ofJson (.object fields)).toJson = .object (fields.insert "message" (.string stack)) := by
  have hcontains : Assoc.contains fields "stack" := by
    rw [Assoc.contains, h]
    rfl
  have hfold := Exception.foldStack_of_stack (e := ⟨fields⟩) (Exception.stack?_eq_some h) hne
  rw [ofJson_of_contains hcontains, hfold]
  rfl

theorem toJson_ofJson_of_no_stack
    (h : ∀ stack, Assoc.get? fields "stack" = some (.string stack) → stack = "") :
    (ofJson (.object fields)).toJson = .object fields := by
  by_cases hcontains : Assoc.contains fields "stack"
  · have hfold : Exception.foldStack ⟨fields⟩ = ⟨fields⟩ :=
      Exception.foldStack_of_no_stack fun stack hstack =>
        h stack (Exception.get?_of_stack?_eq_some hstack)
    rw [ofJson_of_contains hcontains, hfold]
    rfl
  · exact toJson_ofJson_of_not_contains hcontains

end Report

/-! ## The rules -/

/-- What an untyped failure value is reported as. -/
inductive Unified : Json → Json → Prop where
  /-- A text is the message of an exception that has nothing else but the default name. -/
  | text (message : String) :
      Unified (.string message) (.object [("name", .string "Error"), ("message", .string message)])
  /-- The stack stands where the message stood; what was before and behind it stays. -/
  | replaced (before after : Fields) (old : Json) (stack : String)
      (hstack : Assoc.get? (before ++ ("message", old) :: after) "stack" = some (.string stack))
      (hne : stack ≠ "") (hfirst : "message" ∉ Assoc.keys before) :
      Unified (.object (before ++ ("message", old) :: after))
        (.object (before ++ ("message", .string stack) :: after))
  /-- Where there was no message, the stack is added as one at the end. -/
  | added (fields : Fields) (stack : String)
      (hstack : Assoc.get? fields "stack" = some (.string stack)) (hne : stack ≠ "")
      (hnew : "message" ∉ Assoc.keys fields) :
      Unified (.object fields) (.object (fields ++ [("message", .string stack)]))
  /-- Any other value is kept. -/
  | kept (value : Json) (htext : value.text? = none)
      (hstack : ∀ fields stack, value = .object fields →
        Assoc.get? fields "stack" = some (.string stack) → stack = "") :
      Unified value value

namespace Unified

/-- The value that a report stands for is made by one of the rules. -/
theorem toJson_ofJson (value : Json) : Unified value (Report.ofJson value).toJson := by
  cases value with
  | null | bool | number | array =>
    refine .kept _ rfl ?_
    intro fields stack hvalue
    cases hvalue
  | string message => exact .text message
  | object fields =>
    by_cases h : ∃ stack, Assoc.get? fields "stack" = some (.string stack) ∧ stack ≠ ""
    · obtain ⟨stack, hstack, hne⟩ := h
      rw [Report.toJson_ofJson_of_stack hstack hne]
      by_cases hmem : "message" ∈ Assoc.keys fields
      · obtain ⟨before, old, after, rfl, hfirst⟩ := Assoc.exists_of_mem_keys hmem
        rw [Assoc.insert_append_cons hfirst]
        exact .replaced before after old stack hstack hne hfirst
      · rw [Assoc.insert_of_notMem hmem]
        exact .added fields stack hstack hne hmem
    · have hempty : ∀ stack, Assoc.get? fields "stack" = some (.string stack) → stack = "" := by
        intro stack hstack
        by_cases hne : stack = ""
        · exact hne
        · exact absurd ⟨stack, hstack, hne⟩ h
      rw [Report.toJson_ofJson_of_no_stack hempty]
      refine .kept _ rfl ?_
      intro others stack hvalue hstack
      cases hvalue
      exact hempty stack hstack

/-- The rules leave no choice. -/
theorem eq_toJson_ofJson {value reported : Json} (h : Unified value reported) :
    reported = (Report.ofJson value).toJson := by
  cases h with
  | text message => rfl
  | replaced before after old stack hstack hne hfirst =>
    rw [Report.toJson_ofJson_of_stack hstack hne, Assoc.insert_append_cons hfirst]
  | added fields stack hstack hne hnew =>
    rw [Report.toJson_ofJson_of_stack hstack hne, Assoc.insert_of_notMem hnew]
  | kept _ htext hstack =>
    cases value with
    | null | bool | number | array => rfl
    | string message => cases htext
    | object fields =>
      rw [Report.toJson_ofJson_of_no_stack fun stack => hstack fields stack rfl]

end Unified

/-- The report of a value stands for exactly what the rules say, and it is written as what it stands
for. -/
theorem unified_iff_toJson_trace (value reported : Json) :
    (Unified value reported ↔ (Report.trace value).result.toJson = reported) ∧
      (Report.trace value).result.write = (Report.trace value).result.toJson.write := by
  have hresult : (Report.trace value).result = Report.ofJson value := rfl
  rw [hresult]
  refine ⟨⟨fun h => h.eq_toJson_ofJson.symm, ?_⟩, Report.write_eq _⟩
  rintro rfl
  exact Unified.toJson_ofJson value

end HostBoundary
