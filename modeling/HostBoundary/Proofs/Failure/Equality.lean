-- SUMMARY: Failure values that are equal but for the order of their fields are sorted alike, have equal reports and the same text of their own.
import HostBoundary.Proofs.Failure.Message
import HostBoundary.Proofs.Json.Same

/-!
# Equal failures

Sorting a failure and folding its stack go by look-ups, and a look-up finds equal values in objects that are
equal. So the order of fields makes no difference to the sort of a failure, to its report or to its text, as
long as the text is not the compact form. The place where a folded stack is inserted may differ; equality
does not see that.
-/

namespace HostBoundary

/-- Failure values that are sorted and reported as equals, with the same text of their own if they have one. -/
structure Json.FailAlike (a b : Json) : Prop where
  sort : (Failure.ofJson a).sort = (Failure.ofJson b).sort
  failure : (Failure.ofJson a).same (Failure.ofJson b)
  isRendered : Failure.isRendered a = Failure.isRendered b
  report : (Report.ofJson a).same (Report.ofJson b)
  ownText? : a.ownText? = b.ownText?

/-! ## Equal objects -/

section

variable {as bs : Fields}

theorem Json.textField?_eq_of_same {key : String} (hint : (object as).isIntegral)
    (h : SameUnder as bs key) : textField? as key = textField? bs key := by
  have hjoin (fields : Fields) : textField? fields key = ((Assoc.get? fields key).map text?).join := by
    unfold textField?
    cases Assoc.get? fields key <;> rfl
  rw [hjoin, hjoin, h.map_eq hint text?_eq_of_same]

theorem Json.any_isTruthy_eq_of_same {key : String} (hint : (object as).isIntegral)
    (h : SameUnder as bs key) :
    (Assoc.get? as key).any isTruthy = (Assoc.get? bs key).any isTruthy := by
  have hmap (value? : Option Json) : value?.any isTruthy = (value?.map isTruthy).any id := by
    cases value? <;> rfl
  rw [hmap, hmap, h.map_eq hint isTruthy_eq_of_same]

/-- Folding leaves equal exceptions equal: the same stack is folded in both. -/
theorem Exception.same_foldStack (hkeys : (Assoc.keys as).Nodup) (hint : (Json.object as).isIntegral)
    (h : (Json.object as).same (.object bs)) :
    (foldStack ⟨as⟩).toJson.same (foldStack ⟨bs⟩).toJson := by
  have hunder := ((Json.same_object_iff hkeys).mp h).2 "stack"
  have hstack : stack? ⟨as⟩ = stack? ⟨bs⟩ := Json.textField?_eq_of_same hint hunder
  rw [toJson, toJson, fields_foldStack, fields_foldStack, folded?, folded?, hstack]
  cases (stack? ⟨bs⟩).filter (· ≠ "") with
  | none => exact h
  | some stack => exact Json.same_insert hkeys h (beq_self_eq_true stack)

theorem Exception.same_ofMessage (message : String) :
    (ofMessage message).toJson.same (ofMessage message).toJson := by
  simp [toJson, ofMessage, Json.same, Json.sameFields, Assoc.get?]

theorem Json.failAlike_object (hkeys : (Assoc.keys as).Nodup) (hint : (object as).isIntegral)
    (h : (object as).same (object bs)) : FailAlike (object as) (object bs) := by
  have hunder := ((same_object_iff hkeys).mp h).2
  have hcontains : Assoc.contains as "stack" = Assoc.contains bs "stack" := (hunder "stack").contains_eq
  have htruthy := any_isTruthy_eq_of_same hint (hunder "formatted")
  have hsorted : (Failure.ofJson (object as)).sort = (Failure.ofJson (object bs)).sort ∧
      (Failure.ofJson (object as)).same (Failure.ofJson (object bs)) ∧
      (Report.ofJson (object as)).same (Report.ofJson (object bs)) := by
    simp only [Report.ofJson, Failure.ofJson, hcontains, htruthy]
    split
    · exact ⟨rfl, h, Exception.same_foldStack hkeys hint h⟩
    · split
      · exact ⟨rfl, h, h⟩
      · exact ⟨rfl, h, h⟩
  refine ⟨hsorted.1, hsorted.2.1, ?_, hsorted.2.2, ?_⟩
  · rw [Failure.isRendered, Failure.isRendered, hcontains, htruthy]
  · simp only [ownText?, filledField?, hcontains, textField?_eq_of_same hint (hunder _)]

end

/-! ## Equal values -/

theorem Json.failAlike_of_same {a b : Json} (hmerged : a.IsMerged) (hint : a.isIntegral) (h : a.same b) :
    FailAlike a b := by
  cases a with
  | string text =>
    cases b with
    | string other =>
      cases eq_of_beq h
      exact ⟨rfl, h, rfl, Exception.same_ofMessage text, rfl⟩
    | null | bool | number | array | object => cases h
  | object as =>
    cases b with
    | object bs => exact failAlike_object hmerged.1 hint h
    | null | bool | number | string | array => cases h
  | null | bool | number | array =>
    cases b with
    | string | object => cases h
    | null | bool | number | array => exact ⟨rfl, h, rfl, h, rfl⟩

/-- Values of integers that are equal but for the order of fields are sorted as equal failures of the same
sort, the probe finds both or neither, and their reports are equal. If one of them has a text of its own, it
is that of the other, too, and both are reported with it. -/
theorem equal_failures_reported_alike {a b : Json} (hmerged : a.IsMerged) (hint : a.isIntegral)
    (h : a.same b) :
    (Failure.classify a).result.sort = (Failure.classify b).result.sort ∧
      (Failure.classify a).result.same (Failure.classify b).result ∧
      Failure.isRendered a = Failure.isRendered b ∧
      (Report.trace a).result.same (Report.trace b).result ∧
      a.ownText? = b.ownText? ∧
      ∀ text, a.ownText? = some text →
        (Report.trace a).result.message = text ∧ (Report.trace b).result.message = text := by
  have halike := Json.failAlike_of_same hmerged hint h
  have hmessage {value : Json} {text : String} (htext : value.ownText? = some text) :
      (Report.ofJson value).message = text := by
    rw [Report.message_ofJson, htext, Option.getD_some]
  refine ⟨halike.sort, halike.failure, halike.isRendered, halike.report, halike.ownText?, ?_⟩
  intro text htext
  exact ⟨hmessage htext, hmessage (halike.ownText? ▸ htext)⟩

/-- An exception of which the fields are in another order, also inside one of them: the stack is added as
message at the end of both. -/
theorem shuffled_exceptions_reported_alike :
    let details := [("a", Json.number (.int 1 (by decide))), ("b", .null)]
    let a := Json.object [("details", .object details), ("stack", .string "s")]
    let b := Json.object [("stack", .string "s"), ("details", .object details.reverse)]
    a.IsMerged ∧ a.isIntegral ∧ a.same b ∧
      (Report.trace a).result.same (Report.trace b).result ∧
      (Report.trace a).result.message = "s" ∧ (Report.trace b).result.message = "s" := by
  intro details a b
  have hmerged : a.IsMerged := ⟨by decide, ⟨by decide, trivial, trivial, trivial⟩, trivial, trivial⟩
  have hint : a.isIntegral := by decide
  have hsame : a.same b := by decide
  obtain ⟨-, -, -, hreport, -, hmessage⟩ := equal_failures_reported_alike hmerged hint hsame
  exact ⟨hmerged, hint, hsame, hreport, hmessage "s" (by decide)⟩

end HostBoundary
