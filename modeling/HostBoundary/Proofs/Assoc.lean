-- SUMMARY: Keyed lists: what inserting and collecting keep of the entries, and the place of the changed entry.
import HostBoundary.Assoc
import Mathlib.Data.List.Induction

/-!
# Entries of keyed lists

Inserting under a known key changes the value where it stands; under a new key it adds an entry at
the end. So what is collected was all among the given pairs, and pairs without a repeated key are
collected as they are.
-/

namespace HostBoundary

namespace Assoc

variable {α : Type} {entries before after pairs : Assoc α} {key : String} {value old : α}

/-! ## Look-up -/

theorem mem_of_get?_eq_some (h : get? entries key = some value) : (key, value) ∈ entries := by
  induction entries with
  | nil => cases h
  | cons entry rest ih =>
    unfold get? at h
    split at h
    · next hkey =>
      cases h
      exact hkey ▸ List.mem_cons_self
    · exact List.mem_cons_of_mem _ (ih h)

/-- Where no key repeats, every entry is found under its key. -/
theorem get?_eq_some_of_mem {entry : String × α} (hkeys : (keys entries).Nodup) (h : entry ∈ entries) :
    get? entries entry.1 = some entry.2 := by
  induction entries with
  | nil => cases h
  | cons first rest ih =>
    rw [keys, List.map_cons, List.nodup_cons] at hkeys
    unfold get?
    cases h with
    | head => exact if_pos rfl
    | tail _ hrest =>
      have hne : first.1 ≠ entry.1 := by
        intro heq
        exact hkeys.1 (heq ▸ List.mem_map_of_mem hrest)
      exact (if_neg hne).trans (ih hkeys.2 hrest)

/-- A value is found behind entries of other keys. -/
theorem get?_append_cons (h : key ∉ keys before) :
    get? (before ++ (key, value) :: after) key = some value := by
  induction before with
  | nil => exact if_pos rfl
  | cons entry rest ih =>
    simp only [keys, List.map_cons, List.mem_cons, not_or] at h
    exact (if_neg (Ne.symm h.1)).trans (ih h.2)

theorem get?_eq_none_iff : get? entries key = none ↔ key ∉ keys entries := by
  rw [← contains_iff, contains, Bool.not_eq_true, Option.isSome_eq_false_iff, Option.isNone_iff_eq_none]

/-! ## Inserting -/

/-- Inserting adds at most one entry. -/
theorem length_insert : (insert key value entries).length =
    if key ∈ keys entries then entries.length else entries.length + 1 := by
  have hkeys := congrArg List.length (keys_insert entries key value)
  split
  · next h => rwa [if_pos h, keys, keys, List.length_map, List.length_map] at hkeys
  · next h =>
    rwa [if_neg h, List.length_append, keys, keys, List.length_map, List.length_map] at hkeys

/-- Under a new key an entry is added at the end. -/
theorem insert_of_notMem (h : key ∉ keys entries) :
    insert key value entries = entries ++ [(key, value)] := by
  induction entries with
  | nil => rfl
  | cons entry rest ih =>
    simp only [keys, List.map_cons, List.mem_cons, not_or] at h
    rw [insert, if_neg (Ne.symm h.1), ih h.2, List.cons_append]

/-- Under a known key the first entry of that key gets the value, and every other stays. -/
theorem insert_append_cons (h : key ∉ keys before) :
    insert key value (before ++ (key, old) :: after) = before ++ (key, value) :: after := by
  induction before with
  | nil => rw [List.nil_append, insert, if_pos rfl, List.nil_append]
  | cons entry rest ih =>
    simp only [keys, List.map_cons, List.mem_cons, not_or] at h
    rw [List.cons_append, insert, if_neg (Ne.symm h.1), ih h.2, List.cons_append]

/-- The first entry of a known key has entries of other keys before it. -/
theorem exists_of_mem_keys (h : key ∈ keys entries) : ∃ before old after,
    entries = before ++ (key, old) :: after ∧ key ∉ keys before := by
  induction entries with
  | nil => cases h
  | cons entry rest ih =>
    by_cases hkey : entry.1 = key
    · subst hkey
      exact ⟨[], entry.2, rest, rfl, List.not_mem_nil⟩
    · have hrest : key ∈ keys rest := by
        cases h with
        | head => exact absurd rfl hkey
        | tail _ hrest => exact hrest
      obtain ⟨before, old, after, rfl, hbefore⟩ := ih hrest
      refine ⟨entry :: before, old, after, rfl, ?_⟩
      intro hmem
      cases hmem with
      | head => exact hkey rfl
      | tail _ hmem => exact hbefore hmem

/-- A change under another key leaves an entry as it is, among others. -/
theorem exists_insert_append_cons {other : String} (hbefore : key ∉ keys before) (hother : other ≠ key)
    (new : α) (after : Assoc α) : ∃ front back, key ∉ keys front ∧ ∀ value,
      insert other new (before ++ (key, value) :: after) = front ++ (key, value) :: back := by
  induction before with
  | nil => exact ⟨[], insert other new after, List.not_mem_nil, fun value => if_neg (Ne.symm hother)⟩
  | cons entry rest ih =>
    obtain ⟨hentry, hrest⟩ := not_or.mp (mt List.mem_cons.mpr hbefore)
    by_cases hknown : entry.1 = other
    · refine ⟨(entry.1, new) :: rest, after, hbefore, fun value => if_pos hknown⟩
    · obtain ⟨front, back, hfront, hinsert⟩ := ih hrest
      refine ⟨entry :: front, back, List.not_mem_cons_of_ne_of_not_mem hentry hfront, fun value => ?_⟩
      rw [List.cons_append, insert, if_neg hknown, hinsert, List.cons_append]

/-- Of two values put under one key the second one is left. -/
theorem insert_insert : insert key value (insert key old entries) = insert key value entries := by
  induction entries with
  | nil => simp only [insert, if_true]
  | cons entry rest ih =>
    by_cases h : entry.1 = key
    · simp only [insert, if_pos h]
    · simp only [insert, if_neg h, ih]

/-- Among the entries of some keys only, a change under another key is not seen. -/
theorem filter_insert {p : String → Bool} (h : p key = false) :
    (insert key value entries).filter (p ·.1) = entries.filter (p ·.1) := by
  induction entries with
  | nil => simp [insert, h]
  | cons entry rest ih =>
    by_cases hkey : entry.1 = key
    · subst hkey
      simp [insert, h]
    · simp only [insert, if_neg hkey, List.filter_cons, ih]

theorem mem_of_mem_insert {entry : String × α} (h : entry ∈ insert key value entries) :
    entry = (key, value) ∨ entry ∈ entries := by
  by_cases hkey : key ∈ keys entries
  · obtain ⟨before, old, after, rfl, hbefore⟩ := exists_of_mem_keys hkey
    rw [insert_append_cons hbefore] at h
    simp only [List.mem_append, List.mem_cons] at h ⊢
    rcases h with h | h | h
    · exact .inr (.inl h)
    · exact .inl h
    · exact .inr (.inr (.inr h))
  · rw [insert_of_notMem hkey] at h
    simp only [List.mem_append, List.mem_singleton] at h
    exact h.symm

/-! ## Inserting what there is -/

section

variable {value? : Option α}

/-- The entries with a value under a key, if there is one to put there. -/
def insertSome (key : String) (value? : Option α) (entries : Assoc α) : Assoc α :=
  match value? with
  | none => entries
  | some value => entries.insert key value

theorem get?_insertSome : get? (insertSome key value? entries) key = value?.or (get? entries key) := by
  cases value? with
  | none => rfl
  | some value => exact (get?_insert _ _ _ _).trans (if_pos rfl)

theorem get?_insertSome_of_ne {other : String} (h : key ≠ other) :
    get? (insertSome key value? entries) other = get? entries other := by
  cases value? with
  | none => rfl
  | some value => exact (get?_insert _ _ _ _).trans (if_neg h)

theorem filter_insertSome {p : String → Bool} (h : p key = false) :
    (insertSome key value? entries).filter (p ·.1) = entries.filter (p ·.1) := by
  cases value? with
  | none => rfl
  | some value => exact filter_insert h

end

/-! ## Collecting -/

/-- Every collected entry is one of the pairs. -/
theorem mem_of_mem_ofList {entry : String × α} (h : entry ∈ ofList pairs) : entry ∈ pairs := by
  suffices ∀ entries : Assoc α,
      entry ∈ pairs.foldl (fun entries pair => insert pair.1 pair.2 entries) entries →
        entry ∈ entries ∨ entry ∈ pairs by
    rcases this [] h with hnil | hpairs
    · cases hnil
    · exact hpairs
  clear h
  induction pairs with
  | nil => exact fun _ h => .inl h
  | cons pair rest ih =>
    intro entries h
    rcases ih _ h with hinsert | hrest
    · rcases mem_of_mem_insert hinsert with rfl | hentries
      · exact .inr List.mem_cons_self
      · exact .inl hentries
    · exact .inr (List.mem_cons_of_mem _ hrest)

theorem ofList_append_singleton (pair : String × α) :
    ofList (pairs ++ [pair]) = insert pair.1 pair.2 (ofList pairs) :=
  List.foldl_append

/-- The last value under a key is in an entry of its own. The other entries do not depend on it. -/
theorem exists_ofList_append_cons (before : Assoc α) (h : key ∉ keys after) : ∃ front back, key ∉ keys front ∧
    ∀ value, ofList (before ++ (key, value) :: after) = front ++ (key, value) :: back := by
  induction after using List.reverseRecOn with
  | nil =>
    simp only [ofList_append_singleton]
    by_cases hknown : key ∈ keys (ofList before)
    · obtain ⟨front, old, back, heq, hfront⟩ := exists_of_mem_keys hknown
      exact ⟨front, back, hfront, fun value => by rw [heq, insert_append_cons hfront]⟩
    · exact ⟨ofList before, [], hknown, fun value => insert_of_notMem hknown⟩
  | append_singleton later pair ih =>
    simp only [keys, List.map_append, List.mem_append, List.map_cons, List.map_nil, List.mem_singleton,
      not_or] at h
    obtain ⟨front, back, hfront, hlater⟩ := ih h.1
    obtain ⟨inFront, inBack, hinFront, hinsert⟩ :=
      exists_insert_append_cons hfront (Ne.symm h.2) pair.2 back
    refine ⟨inFront, inBack, hinFront, fun value => ?_⟩
    rw [← List.cons_append, ← List.append_assoc, ofList_append_singleton, hlater, hinsert]

/-- Pairs without a repeated key are collected as they are. -/
theorem ofList_eq_self (h : (keys pairs).Nodup) : ofList pairs = pairs := by
  -- The keys collected so far and those still to come are all different.
  suffices ∀ entries : Assoc α, (keys (entries ++ pairs)).Nodup →
      pairs.foldl (fun entries pair => insert pair.1 pair.2 entries) entries = entries ++ pairs from
    this [] h
  clear h
  induction pairs with
  | nil => exact fun entries _ => (List.append_nil entries).symm
  | cons pair rest ih =>
    intro entries h
    have hnew : pair.1 ∉ keys entries := by
      intro hmem
      simp only [keys, List.map_append, List.map_cons, List.nodup_append] at h
      exact h.2.2 _ hmem _ List.mem_cons_self rfl
    rw [List.foldl_cons, insert_of_notMem hnew, ih]
    · rw [List.append_assoc, List.singleton_append]
    · rwa [List.append_assoc, List.singleton_append]

end Assoc

end HostBoundary
