-- SUMMARY: Reporting what was reported before gives the same value and the same texts; the sort of the report stays, but for that of a bare text.
import HostBoundary.Proofs.Failure.Unification
import Mathlib.Logic.Function.Iterate

/-!
# Reporting again

What a failure was reported as may itself be handed over as a failure, any number of times. Folding a
stack neither takes the stack away nor adds one, so an object is sorted as before, and a second
folding finds the message that the first one left. Only a bare text changes its sort: it has become
an object, which nothing marks.
-/

namespace HostBoundary

/-! ## Folding twice -/

namespace Exception

variable (e : Exception)

/-- Folding changes the message at most. -/
theorem get?_foldStack {key : String} (h : key ≠ "message") :
    Assoc.get? e.foldStack.fields key = Assoc.get? e.fields key := by
  rw [foldStack]
  split
  · rfl
  · rfl
  · exact (Assoc.get?_insert _ _ _ _).trans (if_neg h.symm)

theorem stack?_foldStack : e.foldStack.stack? = e.stack? := by
  rw [stack?, stack?, Json.textField?, Json.textField?, get?_foldStack e (by decide)]

theorem contains_foldStack :
    Assoc.contains e.foldStack.fields "stack" = Assoc.contains e.fields "stack" := by
  rw [Assoc.contains, Assoc.contains, get?_foldStack e (by decide)]

/-- Once the stack is in the place of the message, folding puts it there again. -/
theorem foldStack_foldStack : e.foldStack.foldStack = e.foldStack := by
  by_cases h : ∃ stack, e.stack? = some stack ∧ stack ≠ ""
  · obtain ⟨stack, hstack, hne⟩ := h
    have hagain : e.foldStack.stack? = some stack := (stack?_foldStack e).trans hstack
    rw [foldStack_of_stack hagain hne, foldStack_of_stack hstack hne]
    simp only [Assoc.insert_insert]
  · have hnone : ∀ stack, e.stack? = some stack → stack = "" := by
      intro stack hstack
      by_contra hne
      exact h ⟨stack, hstack, hne⟩
    rw [foldStack_of_no_stack hnone, foldStack_of_no_stack hnone]

end Exception

/-! ## Reporting twice -/

theorem Json.eq_string_of_text? {value : Json} {text : String} (h : value.text? = some text) :
    value = .string text := by
  cases value with
  | null | bool | number | array | object => cases h
  | string content =>
    cases h
    rfl

namespace Report

/-- A text is reported as an exception, and as what it is from then on. -/
theorem ofJson_toJson_string (message : String) :
    ofJson (ofJson (.string message)).toJson = .other (ofJson (.string message)).toJson := rfl

/-- Of what is no text, the report is reported as the same report. -/
theorem ofJson_toJson {value : Json} (h : value.text? = none) :
    ofJson (ofJson value).toJson = ofJson value := by
  cases value with
  | null | bool | number | array => rfl
  | string message => cases h
  | object fields =>
    by_cases hstack : Assoc.contains fields "stack"
    · have hagain : Assoc.contains (Exception.foldStack ⟨fields⟩).fields "stack" :=
        (Exception.contains_foldStack ⟨fields⟩).trans hstack
      have hreport := ofJson_of_contains hagain
      rw [ofJson_of_contains hstack, toJson, Exception.toJson, hreport]
      exact congrArg exception (Exception.foldStack_foldStack ⟨fields⟩)
    · rw [toJson_ofJson_of_not_contains hstack]

/-- Two reports that are the same to whoever receives them, but perhaps for their sort. -/
structure Alike (a b : Report) : Prop where
  toJson : a.toJson = b.toJson
  message : a.message = b.message
  shown : toString a = toString b
  write : a.write = b.write

namespace Alike

theorem refl (a : Report) : Alike a a := ⟨rfl, rfl, rfl, rfl⟩

/-- An exception that has a message reads the same when nothing marks it as an exception. -/
theorem other_toJson {e : Exception} {message : String} (h : e.message? = some message) :
    Alike (.other e.toJson) (.exception e) := by
  have hmessage : Report.message (.other e.toJson) = Report.message (.exception e) := by
    have htext : Json.textField? e.fields "message" = some message := h
    simp only [Report.message, Report.toJson, Exception.toJson, htext]
  exact ⟨rfl, hmessage, hmessage, rfl⟩

end Alike

/-- A report of what was reported is alike to the first report. -/
theorem alike_ofJson_toJson (value : Json) :
    Alike (ofJson (ofJson value).toJson) (ofJson value) := by
  cases htext : value.text? with
  | none =>
    rw [ofJson_toJson htext]
    exact .refl _
  | some message =>
    rw [Json.eq_string_of_text? htext, ofJson_toJson_string]
    exact .other_toJson rfl

end Report

/-! ## The probe -/

/-- The probe for rendered diagnostics finds exactly the values that are sorted as diagnostics. -/
theorem Failure.isRendered_iff (value : Json) :
    isRendered value ↔ ∃ d, ofJson value = .diagnostic d := by
  cases value with
  | null | bool | number | string | array => simp [isRendered, ofJson]
  | object fields =>
    by_cases hstack : Assoc.contains fields "stack"
    · simp [isRendered, ofJson, hstack]
    · by_cases hformatted : (Assoc.get? fields "formatted").any Json.isTruthy
      · simp [isRendered, ofJson, hstack, hformatted]
      · simp [isRendered, ofJson, hstack, hformatted]

/-! ## Any number of reports -/

/-- What an untyped failure value is reported as. -/
def Json.reported (value : Json) : Json := (Report.trace value).result.toJson

/-- The report of a value after the value was reported a number of times. -/
def Report.afterReports (n : Nat) (value : Json) : Report :=
  (Report.trace (Json.reported^[n] value)).result

theorem Json.reported_reported (value : Json) : value.reported.reported = value.reported :=
  (Report.alike_ofJson_toJson value).toJson

/-- From the first report on, the value stays. -/
theorem Json.reported_iterate (value : Json) (n : Nat) : reported^[n + 1] value = value.reported := by
  induction n with
  | zero => rfl
  | succ n ih => rw [Function.iterate_succ_apply', ih, reported_reported]

theorem Report.afterReports_succ (n : Nat) (value : Json) :
    afterReports (n + 1) value = ofJson (ofJson value).toJson := by
  rw [afterReports, Json.reported_iterate]
  rfl

/-- A value that is reported any number of times is the same from the first time on, its texts are the
same every time, and so is its report, unless it is a bare text: that is an exception the first time
and what is passed through ever after. Each time the probe finds exactly the diagnostics. -/
theorem reported_again (value : Json) (n : Nat) :
    Json.reported^[n + 1] value = value.reported ∧
      Report.Alike (Report.afterReports n value) (Report.trace value).result ∧
      (value.text? = none → Report.afterReports n value = (Report.trace value).result) ∧
      (∀ message, value = .string message →
        (Report.trace value).result = .exception (.ofMessage message) ∧
          Report.afterReports (n + 1) value = .other value.reported) ∧
      (Failure.isRendered (Json.reported^[n] value) ↔
        ∃ d, (Failure.classify (Json.reported^[n] value)).result = .diagnostic d) := by
  refine ⟨value.reported_iterate n, ?_, ?_, ?_, Failure.isRendered_iff _⟩
  · cases n with
    | zero => exact .refl _
    | succ n =>
      rw [Report.afterReports_succ]
      exact Report.alike_ofJson_toJson value
  · intro htext
    cases n with
    | zero => rfl
    | succ n => exact (Report.afterReports_succ n value).trans (Report.ofJson_toJson htext)
  · rintro message rfl
    exact ⟨rfl, Report.afterReports_succ n _⟩

/-- A bare text is an exception once, and the object of its name and message every time after that. -/
theorem bareText_reported_again :
    (Report.trace (.string "e")).result = .exception (.ofMessage "e") ∧
      Report.afterReports 3 (.string "e") =
        .other (.object [("name", .string "Error"), ("message", .string "e")]) :=
  (reported_again (.string "e") 2).2.2.2.1 "e" rfl

end HostBoundary
