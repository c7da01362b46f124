-- SUMMARY: Logs that are the same but for the times of their records are the same once time stamps are hidden.
import HostBoundary.Session.Log
import HostBoundary.Text.TimeStamp

/-!
# Logs at different times

Two sessions that write the same records at different times leave logs that differ in the time stamps of
the records, and nowhere else. Hiding the stamps makes such logs equal. That needs an argument, since
stamps are found by their form alone, in whatever else a log holds, too: a part with that form starts
with a bracket and has no other such bracket, so none that starts before a record goes on into it.
-/

namespace HostBoundary

namespace TimeStamp

/-! ## Hiding piece by piece -/

theorem length_le_of_startsWith {form cs : List Char} (h : startsWith form cs) :
    form.length ≤ cs.length := by
  induction form generalizing cs with
  | nil => exact Nat.zero_le _
  | cons f form ih =>
    cases cs with
    | nil => cases h
    | cons c cs =>
      rw [startsWith, Bool.and_eq_true] at h
      exact Nat.succ_le_succ (ih h.2)

theorem startsWith_append {form cs : List Char} (h : startsWith form cs) (more : List Char) :
    startsWith form (cs ++ more) := by
  induction form generalizing cs with
  | nil => rfl
  | cons f form ih =>
    cases cs with
    | nil => cases h
    | cons c cs =>
      rw [startsWith, Bool.and_eq_true] at h
      rw [List.cons_append, startsWith, Bool.and_eq_true]
      exact ⟨h.1, ih h.2⟩

/-- A form without brackets does not reach a bracket. -/
theorem startsWith_append_bracket {form : List Char} (hform : '[' ∉ form) (cs more : List Char) :
    startsWith form (cs ++ '[' :: more) = startsWith form cs := by
  induction form generalizing cs with
  | nil => cases cs <;> rfl
  | cons f form ih =>
    rw [List.mem_cons, not_or] at hform
    cases cs with
    | nil =>
      rw [List.nil_append, startsWith, startsWith, beq_false_of_ne hform.1]
      split
      · rfl
      · rfl
    | cons c cs => rw [List.cons_append, startsWith, startsWith, ih hform.2]

/-- What stands before a bracket is dealt with on its own. -/
theorem hideFrom_append_bracket {f : Char} {form : List Char} (hform : '[' ∉ form)
    (shown more : List Char) {skip : Nat} {cs : List Char} (hskip : skip ≤ cs.length) :
    hideFrom (f :: form) shown skip (cs ++ '[' :: more) =
      hideFrom (f :: form) shown skip cs ++ hide (f :: form) shown ('[' :: more) := by
  induction cs generalizing skip with
  | nil =>
    cases Nat.le_zero.mp hskip
    rfl
  | cons c cs ih =>
    cases skip with
    | succ skip => exact ih (Nat.le_of_succ_le_succ hskip)
    | zero =>
      have hsame : startsWith (f :: form) (c :: (cs ++ '[' :: more)) = startsWith (f :: form) (c :: cs) := by
        rw [startsWith, startsWith, startsWith_append_bracket hform]
      rw [List.cons_append, hideFrom, hideFrom, hsame]
      split
      · next hstarts =>
        -- The part ends before the bracket, so what is skipped is in front of it.
        have hlength : form.length ≤ cs.length := Nat.le_of_succ_le_succ (length_le_of_startsWith hstarts)
        rw [List.length_cons, Nat.add_sub_cancel, ih hlength, List.append_assoc]
      · rw [ih (Nat.zero_le _), List.cons_append]

theorem hideFrom_length (form shown skipped rest : List Char) :
    hideFrom form shown skipped.length (skipped ++ rest) = hide form shown rest := by
  induction skipped with
  | nil => rfl
  | cons c skipped ih => exact ih

/-- A part of the form is hidden, and what follows it is dealt with on its own. -/
theorem hide_append_of_startsWith {form part : List Char} {f c : Char}
    (h : startsWith (f :: form) (c :: part)) (hlength : part.length = form.length) (shown rest : List Char) :
    hide (f :: form) shown (c :: part ++ rest) = shown ++ hide (f :: form) shown rest := by
  have hstarts : startsWith (f :: form) (c :: (part ++ rest)) := startsWith_append h rest
  rw [hide, List.cons_append, hideFrom, if_pos hstarts, List.length_cons, Nat.add_sub_cancel, ← hlength,
    hideFrom_length]

/-- The time makes a stamp of the form that is hidden in logs. -/
def IsLogTime (clock : String) : Prop :=
  startsWith logForm ('[' :: (clock.toList ++ [']'])) ∧
    ('[' :: (clock.toList ++ [']'])).length = logForm.length

instance (clock : String) : Decidable (IsLogTime clock) := inferInstanceAs (Decidable (_ ∧ _))

/-- Of a log that a record is added to, the log, the stamp and the rest of the record are dealt with one by
one. -/
theorem hide_append_stamp {clock : String} (h : IsLogTime clock) (shown log rest : List Char) :
    hide logForm shown (log ++ ('[' :: (clock.toList ++ [']']) ++ rest)) =
      hide logForm shown log ++ (shown ++ hide logForm shown rest) := by
  have hform : logForm = '[' :: logForm.tail := by decide
  have hbracket : '[' ∉ logForm.tail := by decide
  obtain ⟨hstarts, hlength⟩ := h
  rw [hform] at hstarts hlength ⊢
  rw [← hide_append_of_startsWith hstarts (Nat.succ.inj hlength), List.cons_append]
  exact hideFrom_append_bracket hbracket shown _ (Nat.zero_le _)

end TimeStamp

/-! ## Restamped logs -/

namespace Session

/-- The texts are the same but for the times of records, at which the clock of the first shows one time and
that of the second another. -/
inductive Restamped (clock other : String) : String → String → Prop where
  | same (text : String) : Restamped clock other text text
  | record {text text' : String} (h : Restamped clock other text text') (source message : String) :
    Restamped clock other (text ++ logLine clock source message) (text' ++ logLine other source message)

namespace Restamped

variable {clock other text text' : String}

/-- At the same time there is no difference. -/
theorem eq (h : Restamped clock clock text text') : text = text' := by
  induction h with
  | same text => rfl
  | record _ source message ih => rw [ih]

/-- Once time stamps are hidden there is no difference. -/
theorem hideInLog_eq (h : Restamped clock other text text') (hclock : TimeStamp.IsLogTime clock)
    (hother : TimeStamp.IsLogTime other) (shown : String) :
    TimeStamp.hideInLog shown text = TimeStamp.hideInLog shown text' := by
  induction h with
  | same text => rfl
  | @record text text' _ source message ih =>
    let rest := (" [" ++ source ++ "] " ++ message ++ "\n").toList
    have hline (log time : String) : (log ++ logLine time source message).toList =
        log.toList ++ ('[' :: (time.toList ++ [']']) ++ rest) := by
      simp [logLine, rest]
    have hlogs := String.ofList_injective ih
    unfold TimeStamp.hideInLog
    rw [hline, hline, TimeStamp.hide_append_stamp hclock, TimeStamp.hide_append_stamp hother, hlogs]

end Restamped

end Session

end HostBoundary
