-- SUMMARY: What the inputs of a run give in order, and parts of a state that the first or the last of these decides.

/-!
# What a run gives

A run takes inputs in order, each in the state that the input before it left. Something that each input
may give, such as a new value for a part of the state, is gathered along the run. A part that every given
value replaces is in the end the last one gathered; a part that is set once is the first.
-/

namespace HostBoundary

variable {σ ι α : Type}

/-- What the inputs of a run give, in order. -/
def gathered (next : σ → ι → σ) (give : σ → ι → Option α) : σ → List ι → List α
  | _, [] => []
  | s, input :: rest => (give s input).toList ++ gathered next give (next s input) rest

variable {next : σ → ι → σ} {give : σ → ι → Option α}

theorem gathered_eq_nil {s : σ} {inputs : List ι} (h : ∀ input ∈ inputs, ∀ t, give t input = none) :
    gathered next give s inputs = [] := by
  induction inputs generalizing s with
  | nil => rfl
  | cons input rest ih =>
    rw [List.forall_mem_cons] at h
    simp only [gathered, h.1, Option.toList_none, List.nil_append]
    exact ih h.2

/-- What does not depend on the state can be told from the inputs alone. -/
theorem gathered_eq_filterMap (f : ι → Option α) (s : σ) (inputs : List ι) :
    gathered next (fun _ => f) s inputs = inputs.filterMap f := by
  induction inputs generalizing s with
  | nil => rfl
  | cons input rest ih =>
    rw [gathered, ih, List.filterMap_cons]
    cases f input <;> rfl

/-- A part that each input may replace is in the end what the last such input gave. -/
theorem eq_getLast?_gathered (part : σ → Option α)
    (hpart : ∀ s input, part (next s input) = (give s input).or (part s))
    (s : σ) (inputs : List ι) :
    part (inputs.foldl next s) = (gathered next give s inputs).getLast?.or (part s) := by
  induction inputs generalizing s with
  | nil => rfl
  | cons input rest ih =>
    rw [List.foldl_cons, ih, hpart, gathered, List.getLast?_append, Option.or_assoc]
    cases give s input <;> rfl

/-- A part that is set once is in the end what the first input gave that could set it. -/
theorem eq_head?_gathered (part : σ → Option α)
    (hpart : ∀ s input, part (next s input) = (part s).or (give s input))
    (s : σ) (inputs : List ι) :
    part (inputs.foldl next s) = (part s).or (gathered next give s inputs).head? := by
  induction inputs generalizing s with
  | nil => exact Option.or_none.symm
  | cons input rest ih =>
    rw [List.foldl_cons, ih, hpart, gathered, List.head?_append, Option.or_assoc]
    cases give s input <;> rfl

end HostBoundary
