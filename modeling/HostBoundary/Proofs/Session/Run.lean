-- SUMMARY: Runs of many steps: what holds of each step, and what the steps give in order.
import HostBoundary.Proofs.Gathered
import HostBoundary.Session.Step

/-!
# Runs

A run takes its steps in order, each in the session that the step before it left. A property of sessions
and steps can hold of each step of a run, and something that each step may give, such as a verbosity that
it asks for, is gathered along the run.
-/

namespace HostBoundary

namespace Session

variable {α : Type} {P Q : Session → Step → Prop} {s : Session} {steps more : List Step}

theorem after_append (s : Session) (steps more : List Step) :
    s.after (steps ++ more) = (s.after steps).after more :=
  List.foldl_append

/-! ## Each step -/

/-- Whether something holds of each step of a run and the session in which it is taken. -/
def EachStep (P : Session → Step → Prop) : Session → List Step → Prop
  | _, [] => True
  | s, step :: rest => P s step ∧ EachStep P (step.run s).session rest

instance decidableEachStep (P : Session → Step → Prop) [∀ s, DecidablePred (P s)] :
    ∀ s, DecidablePred (EachStep P s)
  | _, [] => isTrue trivial
  | s, step :: rest =>
    have := decidableEachStep P (step.run s).session rest
    inferInstanceAs (Decidable (P s step ∧ EachStep P (step.run s).session rest))

theorem eachStep_append :
    EachStep P s (steps ++ more) ↔ EachStep P s steps ∧ EachStep P (s.after steps) more := by
  induction steps generalizing s with
  | nil => exact ⟨fun h => ⟨trivial, h⟩, fun h => h.2⟩
  | cons step rest ih => exact (and_congr_right fun _ => ih).trans and_assoc.symm

theorem EachStep.imp (himp : ∀ t step, P t step → Q t step) (h : EachStep P s steps) :
    EachStep Q s steps := by
  induction steps generalizing s with
  | nil => trivial
  | cons step rest ih => exact ⟨himp s step h.1, ih h.2⟩

/-- What every step keeps, holds before each step of a run. -/
theorem EachStep.of_kept {I : Session → Prop} (hs : I s)
    (hkept : ∀ (t : Session) (step : Step), I t → I (step.run t).session) :
    EachStep (fun t _ => I t) s steps := by
  induction steps generalizing s with
  | nil => trivial
  | cons step rest ih => exact ⟨hs, ih (hkept s step hs)⟩

/-! ## What steps give -/

/-- What the steps of a run give, in order. -/
abbrev gathered (give : Session → Step → Option α) : Session → List Step → List α :=
  HostBoundary.gathered (fun s step => (step.run s).session) give

end Session

end HostBoundary
