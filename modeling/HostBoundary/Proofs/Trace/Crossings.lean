-- SUMMARY: Crossings of lists: the first failure ends them, and what is reported by one event where it fails, item by item, is so for the whole list.
import HostBoundary.Payload.Crossing
import Mathlib.Data.List.Forall2

/-!
# Crossings of lists

A crossing is a result and the events that were reported on the way to it. A list crosses item by item, in
order, and no further than to the first item that is rejected. So there is at most one failure, and if each
item reports its own failure by one event, then so does the list.
-/

namespace HostBoundary

instance : LawfulMonad Traced :=
  LawfulMonad.mk' Traced
    (fun x => congrArg (Traced.mk x.result) (List.append_nil x.events))
    (fun _ _ => rfl)
    (fun x f g => congrArg (Traced.mk _) (List.append_assoc x.events _ _))

/-! ## Lists of results -/

namespace Except

variable {α β ε : Type} {f : α → Except ε β} {items : List α}

theorem mapM_eq_ok_iff {results : List β} :
    items.mapM f = .ok results ↔ List.Forall₂ (fun item b => f item = .ok b) items results := by
  induction items generalizing results with
  | nil => simp [pure, Except.pure, eq_comm]
  | cons item rest ih =>
    rw [List.mapM_cons, List.forall₂_cons_left_iff]
    cases f item with
    | error e => simp [bind, Except.bind]
    | ok b =>
      cases hrest : rest.mapM f with
      | error e => simp [bind, Except.bind, ← ih, hrest]
      | ok bs => simp [bind, Except.bind, pure, Except.pure, ← ih, hrest, eq_comm]

theorem mapM_eq_error_iff {e : ε} :
    items.mapM f = .error e ↔ ∃ before item after, items = before ++ item :: after ∧
      (∀ passed ∈ before, ∃ b, f passed = .ok b) ∧ f item = .error e := by
  induction items with
  | nil => simp [pure, Except.pure]
  | cons first rest ih =>
    rw [List.mapM_cons]
    constructor
    · intro h
      cases hfirst : f first with
      | error cause =>
        rw [hfirst] at h
        cases h
        exact ⟨[], first, rest, rfl, List.forall_mem_nil _, hfirst⟩
      | ok b =>
        have hrest : rest.mapM f = .error e := by
          cases hrest : rest.mapM f with
          | error cause =>
            rw [hfirst, hrest] at h
            cases h
            rfl
          | ok bs =>
            rw [hfirst, hrest] at h
            cases h
        obtain ⟨before, item, after, rfl, hbefore, hitem⟩ := ih.mp hrest
        exact ⟨first :: before, item, after, rfl, List.forall_mem_cons.mpr ⟨⟨b, hfirst⟩, hbefore⟩, hitem⟩
    · rintro ⟨before, item, after, hitems, hbefore, hitem⟩
      cases before with
      | nil =>
        cases hitems
        rw [hitem]
        rfl
      | cons passed before =>
        cases hitems
        obtain ⟨⟨b, hb⟩, hbefore⟩ := List.forall_mem_cons.mp hbefore
        rw [hb, ih.mpr ⟨before, item, after, rfl, hbefore, hitem⟩]
        rfl

end Except

/-! ## Crossings one after another -/

namespace Crossing

variable {α β : Type} {x : Crossing α} {f : α → Crossing β}

theorem result_bind (x : Crossing α) (f : α → Crossing β) :
    (x >>= f).run.result = x.run.result >>= fun a => (f a).run.result := by
  rw [ExceptT.run_bind, Traced.result_bind]
  cases x.run.result with
  | ok a => rfl
  | error e => rfl

theorem events_bind_of_ok {a : α} (h : x.run.result = .ok a) :
    (x >>= f).run.events = x.run.events ++ (f a).run.events := by
  rw [ExceptT.run_bind, Traced.events_bind, h]

theorem events_bind_of_error {e : BoundaryError} (h : x.run.result = .error e) :
    (x >>= f).run.events = x.run.events := by
  rw [ExceptT.run_bind, Traced.events_bind, h]
  exact List.append_nil _

/-- The result of a list of crossings depends on the results of its items only. -/
theorem result_mapM (f : α → Crossing β) (items : List α) :
    (items.mapM f).run.result = items.mapM fun item => (f item).run.result := by
  induction items with
  | nil => rfl
  | cons item rest ih =>
    simp only [List.mapM_cons, result_bind, ih]
    rfl

/-! ## Failures that are reported -/

/-- A computation reports nothing where it succeeds, and where it fails exactly one event, which tells of the
failure. -/
structure ReportsOnce (tells : BoundaryError → Event → Prop) (x : Crossing α) : Prop where
  success : ∀ a, x.run.result = .ok a → x.run.events = []
  failure : ∀ e, x.run.result = .error e → ∃ event, x.run.events = [event] ∧ tells e event

namespace ReportsOnce

variable {tells : BoundaryError → Event → Prop}

/-- What tells of a failure in one way tells of it in a weaker way, too. -/
theorem imp {others : BoundaryError → Event → Prop} (h : ReportsOnce tells x)
    (himp : ∀ e event, tells e event → others e event) : ReportsOnce others x where
  success := h.success
  failure := by
    intro e he
    obtain ⟨event, hevents, htells⟩ := h.failure e he
    exact ⟨event, hevents, himp e event htells⟩

theorem pure (a : α) : ReportsOnce tells (Pure.pure a : Crossing α) where
  success := fun _ _ => rfl
  failure := fun _ h => nomatch h

theorem failWith {error : BoundaryError} {event : Event} (h : tells error event) :
    ReportsOnce tells (Crossing.failWith error event : Crossing α) where
  success := fun _ h => nomatch h
  failure := by
    rintro e ⟨rfl⟩
    exact ⟨event, rfl, h⟩

/-- Where the first of two computations fails, the second one is not begun. -/
theorem bind (hx : ReportsOnce tells x) (hf : ∀ a, ReportsOnce tells (f a)) :
    ReportsOnce tells (x >>= f) := by
  cases hfirst : x.run.result with
  | error e =>
    have hresult : (x >>= f).run.result = .error e := by rw [result_bind, hfirst]; rfl
    refine ⟨fun a h => ?_, fun cause h => ?_⟩
    · rw [hresult] at h
      cases h
    · rw [hresult] at h
      cases h
      rw [events_bind_of_error hfirst]
      exact hx.failure e hfirst
  | ok a =>
    have hresult : (x >>= f).run.result = (f a).run.result := by rw [result_bind, hfirst]; rfl
    have hevents : (x >>= f).run.events = (f a).run.events := by
      rw [events_bind_of_ok hfirst, hx.success a hfirst, List.nil_append]
    refine ⟨fun b h => ?_, fun cause h => ?_⟩
    · rw [hevents]
      exact (hf a).success b (hresult ▸ h)
    · rw [hevents]
      exact (hf a).failure cause (hresult ▸ h)

/-- A list that fails reports the failure of the item that is to blame, and nothing of the items behind it. -/
theorem mapM {items : List α} (hf : ∀ item ∈ items, ReportsOnce tells (f item)) :
    ReportsOnce tells (items.mapM f) := by
  induction items with
  | nil => exact pure []
  | cons item rest ih =>
    obtain ⟨hitem, hrest⟩ := List.forall_mem_cons.mp hf
    rw [List.mapM_cons]
    exact bind hitem fun b => bind (ih hrest) fun bs => pure (b :: bs)

end ReportsOnce

end Crossing

end HostBoundary
