-- SUMMARY: What is left of an exception after any changes: its stack is the last one given, its message the last stack that was folded, and all else stays.
import HostBoundary.Proofs.Failure.Unification
import HostBoundary.Proofs.Gathered

/-!
# The life of an exception

An exception may be given other stacks, folded, unified and sorted again, any number of times and in any
order. Its stack is the one that was given last, and its message is the stack that it had when it was
folded or unified last while there was something to fold. Nothing else about it changes.
-/

namespace HostBoundary

namespace Exception

/-- A change of an exception. -/
inductive Change where
  | withStack (stack : String)
  | fold
  /-- Unification, and the exception of the report. -/
  | unify
  /-- Sorting of the fields; what is sorted as no exception leaves the exception as it was. -/
  | reclassify

/-- The exception after a change. -/
def changed (e : Exception) : Change → Exception
  | .withStack stack => e.withStack stack
  | .fold => e.foldStack
  | .unify =>
    match (Failure.exception e).unify with
    | .exception unified => unified
    | _ => e
  | .reclassify =>
    match (Failure.classify e.toJson).result with
    | .exception found => found
    | _ => e

/-- The exception after changes, one after the other. -/
def after (e : Exception) (changes : List Change) : Exception := changes.foldl changed e

/-- The stack that a change gives. -/
def Change.given? : Change → Option Json
  | withStack stack => some (.string stack)
  | _ => none

/-- The stack that a change of an exception puts in the place of the message: a text, and not the empty
one. -/
def folded? (e : Exception) : Change → Option Json
  | .fold | .unify => (e.stack?.filter (· ≠ "")).map Json.string
  | _ => none

/-- The fields of an exception but for its message and its stack. -/
def others (e : Exception) : Fields :=
  e.fields.filter fun field => field.1 ≠ "message" ∧ field.1 ≠ "stack"

variable (e : Exception)

/-! ## One change -/

theorem fields_foldStack :
    e.foldStack.fields = e.fields.insertSome "message" (e.folded? .fold) := by
  unfold folded?
  cases h : e.stack?.filter (· ≠ "") with
  | none =>
    rw [Option.filter_eq_none_iff] at h
    rw [foldStack_of_no_stack fun stack hstack => by simpa using h stack hstack]
    rfl
  | some stack =>
    rw [Option.filter_eq_some_iff] at h
    rw [foldStack_of_stack h.1 (by simpa using h.2)]
    rfl

/-- Sorting the fields never gives another exception. -/
theorem changed_reclassify : e.changed .reclassify = e := by
  have hresult : (Failure.classify e.toJson).result = Failure.ofJson (.object e.fields) := rfl
  simp only [changed, hresult, Failure.ofJson]
  by_cases hstack : Assoc.contains e.fields "stack"
  · simp only [if_pos hstack]
  · by_cases hformatted : (Assoc.get? e.fields "formatted").any Json.isTruthy
    · simp only [if_neg hstack, if_pos hformatted]
    · simp only [if_neg hstack, if_neg hformatted]

/-- A change comes down to the stack that it gives and the stack that it folds, if any. -/
theorem fields_changed (change : Change) :
    (e.changed change).fields =
      (e.fields.insertSome "stack" change.given?).insertSome "message" (e.folded? change) := by
  cases change with
  | withStack stack => rfl
  | fold | unify => exact e.fields_foldStack
  | reclassify => exact congrArg fields e.changed_reclassify

theorem others_changed (change : Change) : (e.changed change).others = e.others := by
  unfold others
  rw [fields_changed]
  exact (Assoc.filter_insertSome (p := fun key => key ≠ "message" ∧ key ≠ "stack") rfl).trans
    (Assoc.filter_insertSome (p := fun key => key ≠ "message" ∧ key ≠ "stack") rfl)

theorem get?_stack_changed (change : Change) :
    Assoc.get? (e.changed change).fields "stack" = change.given?.or (Assoc.get? e.fields "stack") := by
  rw [fields_changed, Assoc.get?_insertSome_of_ne (by decide), Assoc.get?_insertSome]

theorem get?_message_changed (change : Change) :
    Assoc.get? (e.changed change).fields "message" =
      (e.folded? change).or (Assoc.get? e.fields "message") := by
  rw [fields_changed, Assoc.get?_insertSome, Assoc.get?_insertSome_of_ne (by decide)]

/-! ## Any number of changes -/

theorem others_after (changes : List Change) : (e.after changes).others = e.others := by
  induction changes generalizing e with
  | nil => rfl
  | cons change rest ih => exact (ih (e.changed change)).trans (e.others_changed change)

/-- After any changes, every field but message and stack is as it was, in its order. The stack is the last
one that was given, and the message is the stack that was folded last; without one, each is as it was. -/
theorem fields_after_changes (changes : List Change) :
    (e.after changes).others = e.others ∧
      Assoc.get? (e.after changes).fields "stack" =
        (changes.filterMap Change.given?).getLast?.or (Assoc.get? e.fields "stack") ∧
      Assoc.get? (e.after changes).fields "message" =
        (gathered changed folded? e changes).getLast?.or (Assoc.get? e.fields "message") := by
  refine ⟨e.others_after changes, ?_, ?_⟩
  · rw [← gathered_eq_filterMap Change.given? e changes]
    exact eq_getLast?_gathered (Assoc.get? ·.fields "stack") get?_stack_changed e changes
  · exact eq_getLast?_gathered (Assoc.get? ·.fields "message") get?_message_changed e changes

/-- A stack that replaces a folded one is not the message until it is folded, too; an empty one never is. -/
example :
    let e : Exception := ⟨[("message", .string "m"), ("code", .null), ("stack", .string "first")]⟩
    (e.after [.fold, .withStack "second"]).message? = some "first" ∧
      (e.after [.withStack "second", .unify, .withStack "", .fold]).message? = some "second" := by
  decide

end Exception

end HostBoundary
