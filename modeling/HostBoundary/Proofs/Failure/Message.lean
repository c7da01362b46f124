-- SUMMARY: Which text a failure is reported with: the one that its fields give, by a fixed precedence, and otherwise its compact form.
import HostBoundary.Proofs.Failure.Life

/-!
# The text of a report

A failure is reported with a text of its own if it has one. A bare text is that text. For an object with a
stack it is the stack, and the message only where the stack is empty or no text; for any other object it is
the message, and what the engine has rendered only where the message is no text. A message counts even if it
is empty. All other values, and objects without such a field, are shown in compact form as they came.
-/

namespace HostBoundary

namespace Json

/-- The text under a key, unless it is empty. -/
def filledField? (fields : Fields) (key : String) : Option String :=
  (textField? fields key).filter (· ≠ "")

/-- The text that a failure value has of its own, if it has one. -/
def ownText? : Json → Option String
  | string text => some text
  | object fields =>
    if Assoc.contains fields "stack" then
      (filledField? fields "stack").or (textField? fields "message")
    else (textField? fields "message").or (filledField? fields "formatted")
  | _ => none

variable {fields : Fields} {key : String}

/-- A field that counts as true has no empty text. -/
theorem filledField?_of_isTruthy (h : (Assoc.get? fields key).any isTruthy) :
    filledField? fields key = textField? fields key := by
  unfold filledField? textField?
  cases hvalue : Assoc.get? fields key with
  | none => rfl
  | some value =>
    cases value with
    | string text => simpa [hvalue, isTruthy, text?] using h
    | null | bool | number | array | object => rfl

/-- A field that counts as false has no text but the empty one. -/
theorem filledField?_of_not_isTruthy (h : ¬ (Assoc.get? fields key).any isTruthy) :
    filledField? fields key = none := by
  unfold filledField? textField?
  cases hvalue : Assoc.get? fields key with
  | none => rfl
  | some value =>
    cases value with
    | string text => simpa [hvalue, isTruthy, text?] using h
    | null | bool | number | array | object => rfl

end Json

/-! ## Reports of objects -/

namespace Report

open Json

/-- What the engine has rendered of a report, if that is a text. -/
def rendered? : Report → Option String
  | diagnostic d => d.text? "formatted"
  | _ => none

theorem message_of_toJson {report : Report} {fields : Fields} (h : report.toJson = .object fields) :
    report.message = ((textField? fields "message").or report.rendered?).getD (Json.object fields).toText := by
  unfold message
  simp only [h]
  cases textField? fields "message" with
  | some message => rfl
  | none => cases report <;> rfl

/-- An exception whose stack is folded tells its stack, or else the message that it had. -/
theorem message_foldStack (e : Exception) :
    message (.exception e.foldStack) =
      ((filledField? e.fields "stack").or (textField? e.fields "message")).getD e.toJson.toText := by
  have hfolded : e.folded? .fold = (filledField? e.fields "stack").map Json.string := rfl
  have hmessage : textField? e.foldStack.fields "message" =
      (filledField? e.fields "stack").or (textField? e.fields "message") := by
    change (Assoc.get? (e.changed .fold).fields "message").bind text? = _
    rw [e.get?_message_changed .fold, hfolded]
    cases filledField? e.fields "stack" <;> rfl
  have hrendered : rendered? (.exception e.foldStack) = none := rfl
  rw [message_of_toJson rfl, hmessage, hrendered, Option.or_none]
  cases hstack : filledField? e.fields "stack" with
  | some stack => rfl
  | none =>
    -- Nothing is folded, so the compact form is that of the exception as it came.
    have hsame : e.foldStack.fields = e.fields := by
      rw [Exception.fields_foldStack, hfolded, hstack]
      rfl
    rw [hsame]
    rfl

end Report

/-! ## Any value -/

theorem Report.message_ofJson (value : Json) :
    (ofJson value).message = value.ownText?.getD value.toText := by
  cases value with
  | null | bool | number | string | array => rfl
  | object fields =>
    by_cases hstack : Assoc.contains fields "stack"
    · rw [ofJson_of_contains hstack, message_foldStack, Json.ownText?, if_pos hstack]
      rfl
    · rw [ofJson, Failure.ofJson, Json.ownText?, if_neg hstack, if_neg hstack]
      by_cases hformatted : (Assoc.get? fields "formatted").any Json.isTruthy
      · rw [if_pos hformatted, Json.filledField?_of_isTruthy hformatted]
        exact message_of_toJson rfl
      · rw [if_neg hformatted, Json.filledField?_of_not_isTruthy hformatted]
        exact message_of_toJson rfl

/-- A value is reported with the text that it has of its own, and with its compact form if it has none. That
is also how the report is shown. -/
theorem message_trace (value : Json) :
    (Report.trace value).result.message = value.ownText?.getD value.toText ∧
      toString (Report.trace value).result = value.ownText?.getD value.toText :=
  ⟨Report.message_ofJson value, Report.message_ofJson value⟩

/-- An empty message counts where the stack is empty, and comes before what is rendered; a stack that is no
text still hides what is rendered. -/
example :
    (Json.object [("message", .string ""), ("stack", .string "")]).ownText? = some "" ∧
      (Json.object [("formatted", .string "f"), ("message", .string "")]).ownText? = some "" ∧
      (Json.object [("formatted", .string "f"), ("stack", .null)]).ownText? = none := by
  decide

end HostBoundary
