-- SUMMARY: Values mapped in order by a function with a state, and keyed results collected by arrival or by key.
import HostBoundary.Proofs.Assoc
import HostBoundary.Proofs.Text.ByteOrder
import Mathlib.Data.List.Nodup
import Mathlib.Data.String.Basic

/-!
# Keyed results

Mapping the values of a keyed list calls the function once for each value, in order, and leaves the keys where
they are. What is collected from the results has every key once, with its last result; the two ways to collect
differ in the order of the keys alone, which is that of their first arrival or that of their bytes.
-/

namespace HostBoundary

namespace Assoc

variable {α β σ κ : Type} {entries pairs : Assoc α} {key : String} {value : α}

/-! ## Mapping with a state -/

/-- The state behind some pairs. -/
def stateAfter (f : σ → α → β × σ) (state : σ) (pairs : List (κ × α)) : σ :=
  pairs.foldl (fun state pair => (f state pair.2).2) state

/-- The function that also keeps a record of the values that it is called with. -/
def recording (f : σ → α → β × σ) (state : List α × σ) (value : α) : β × (List α × σ) :=
  ((f state.2 value).1, (state.1 ++ [value], (f state.2 value).2))

theorem mapValues_cons (f : σ → α → β × σ) (state : σ) (pair : κ × α) (rest : List (κ × α)) :
    mapValues f state (pair :: rest) =
      ((pair.1, (f state pair.2).1) :: (mapValues f (f state pair.2).2 rest).1,
        (mapValues f (f state pair.2).2 rest).2) := rfl

/-- Every pair keeps its key and place and has the result of its value in the state that the pairs before it
leave. -/
theorem mapValues_eq (f : σ → α → β × σ) (state : σ) (pairs : List (κ × α)) :
    mapValues f state pairs =
      (pairs.mapIdx fun i pair => (pair.1, (f (stateAfter f state (pairs.take i)) pair.2).1),
        stateAfter f state pairs) := by
  induction pairs generalizing state with
  | nil => rfl
  | cons pair rest ih =>
    rw [mapValues_cons, ih, List.mapIdx_cons]
    rfl

theorem mapValues_recording (f : σ → α → β × σ) (calls : List α) (state : σ) (pairs : List (κ × α)) :
    mapValues (recording f) (calls, state) pairs =
      ((mapValues f state pairs).1, (calls ++ pairs.map (·.2), (mapValues f state pairs).2)) := by
  induction pairs generalizing calls state with
  | nil => simp [mapValues]
  | cons pair rest ih =>
    simp only [mapValues_cons, recording, ih, List.map_cons, List.append_assoc, List.singleton_append]

theorem keys_mapValues (f : σ → α → β × σ) (state : σ) (pairs : List (String × α)) :
    keys (mapValues f state pairs).1 = keys pairs := by
  induction pairs generalizing state with
  | nil => rfl
  | cons pair rest ih =>
    rw [mapValues_cons, keys, List.map_cons]
    exact congrArg (pair.1 :: ·) (ih _)

/-! ## The last value of a key -/

/-- The value stands in the last of the pairs with the key. -/
def IsLast (pairs : List (String × α)) (key : String) (value : α) : Prop :=
  ∃ before after, pairs = before ++ (key, value) :: after ∧ key ∉ keys after

theorem get?_eq_some_iff : get? entries key = some value ↔
    ∃ before after, entries = before ++ (key, value) :: after ∧ key ∉ keys before := by
  constructor
  · intro h
    have hkey : key ∈ keys entries := List.mem_map_of_mem (mem_of_get?_eq_some h)
    obtain ⟨before, old, after, rfl, hbefore⟩ := exists_of_mem_keys hkey
    rw [get?_append_cons hbefore] at h
    cases h
    exact ⟨before, after, rfl, hbefore⟩
  · rintro ⟨before, after, rfl, hbefore⟩
    exact get?_append_cons hbefore

theorem keys_reverse (pairs : Assoc α) : keys pairs.reverse = (keys pairs).reverse := List.map_reverse

/-- The last value of a key is the first one from behind. -/
theorem isLast_iff : IsLast pairs key value ↔ get? pairs.reverse key = some value := by
  rw [get?_eq_some_iff]
  constructor
  · rintro ⟨before, after, rfl, hafter⟩
    refine ⟨after.reverse, before.reverse, ?_, ?_⟩
    · simp
    · simpa [keys_reverse] using hafter
  · rintro ⟨before, after, heq, hbefore⟩
    refine ⟨after.reverse, before.reverse, ?_, ?_⟩
    · rw [← List.reverse_reverse pairs, heq]
      simp
    · simpa [keys_reverse] using hbefore

theorem get?_append (front back : Assoc α) (key : String) :
    get? (front ++ back) key = (get? front key).or (get? back key) := by
  induction front with
  | nil => rfl
  | cons entry rest ih =>
    rw [List.cons_append, get?, get?]
    split
    · rfl
    · exact ih

/-- Whatever the places are in which values are put, of several values under one key the last one is found. -/
theorem get?_foldl_put {put : String → α → Assoc α → Assoc α}
    (hput : ∀ entries k key value,
      get? (put k value entries) key = if k = key then some value else get? entries key)
    (pairs entries : Assoc α) (key : String) :
    get? (pairs.foldl (fun entries pair => put pair.1 pair.2 entries) entries) key =
      (get? pairs.reverse key).or (get? entries key) := by
  induction pairs generalizing entries with
  | nil => rfl
  | cons pair rest ih =>
    have hpair : (get? [pair] key).or (get? entries key) =
        if pair.1 = key then some pair.2 else get? entries key := by
      rw [get?]
      split
      · rfl
      · rfl
    rw [List.foldl_cons, ih, hput, List.reverse_cons, get?_append, Option.or_assoc, hpair]

theorem get?_ofList (pairs : Assoc α) (key : String) : get? (ofList pairs) key = get? pairs.reverse key :=
  (get?_foldl_put get?_insert pairs [] key).trans Option.or_none

theorem get?_sortedOfList (pairs : Assoc α) (key : String) :
    get? (sortedOfList pairs) key = get? pairs.reverse key :=
  (get?_foldl_put get?_insertSorted pairs [] key).trans Option.or_none

/-! ## Order of the keys -/

theorem mem_keys_insertSorted {other : String} :
    other ∈ keys (insertSorted key value entries) ↔ other = key ∨ other ∈ keys entries := by
  rw [← contains_iff, ← contains_iff, contains, contains, get?_insertSorted]
  by_cases h : key = other
  · simp [h]
  · simp [h, Ne.symm h]

/-- Between increasing keys, a key is put where they still increase. -/
theorem pairwise_keys_insertSorted (key : String) (value : α) (h : (keys entries).Pairwise (· < ·)) :
    (keys (insertSorted key value entries)).Pairwise (· < ·) := by
  induction entries with
  | nil => simp [insertSorted, keys]
  | cons entry rest ih =>
    obtain ⟨hentry, hrest⟩ := List.pairwise_cons.mp h
    rw [insertSorted]
    split
    · exact h
    · next hne =>
      split
      · next hlt =>
        refine List.pairwise_cons.mpr ⟨?_, h⟩
        intro other hother
        rcases List.mem_cons.mp hother with rfl | hother
        · exact hlt
        · exact lt_trans hlt (hentry other hother)
      · next hle =>
        refine List.pairwise_cons.mpr ⟨?_, ih hrest⟩
        intro other hother
        rcases mem_keys_insertSorted.mp hother with rfl | hother
        · exact lt_of_le_of_ne (not_lt.mp hle) hne
        · exact hentry other hother

theorem pairwise_keys_sortedOfList (pairs : List (String × α)) :
    (keys (sortedOfList pairs)).Pairwise (· < ·) := by
  induction pairs using List.reverseRecOn with
  | nil => exact .nil
  | append_singleton pairs pair ih =>
    rw [sortedOfList, List.foldl_append]
    exact pairwise_keys_insertSorted pair.1 pair.2 ih

/-- The keys stand in the order of their first arrival. -/
theorem keys_ofList (pairs : List (String × α)) : keys (ofList pairs) = (keys pairs).eraseDups := by
  induction pairs using List.reverseRecOn with
  | nil => rfl
  | append_singleton pairs pair ih =>
    have hkeys : keys (pairs ++ [pair]) = keys pairs ++ [pair.1] := List.map_append
    rw [ofList_append_singleton, keys_insert, ih, hkeys, List.eraseDups_append]
    by_cases h : pair.1 ∈ keys pairs
    · rw [if_pos (List.mem_eraseDups.mpr h)]
      simp [List.removeAll, h]
    · rw [if_neg (mt List.mem_eraseDups.mp h)]
      simp [List.removeAll, h, List.eraseDups_cons]

/-! ## Collecting -/

/-- The entries hold each key of the pairs once, with its last value. -/
structure Collects (entries : Assoc α) (pairs : List (String × α)) : Prop where
  nodup : (keys entries).Nodup
  mem_keys_iff : ∀ key, key ∈ keys entries ↔ key ∈ keys pairs
  mem_iff : ∀ key value, (key, value) ∈ entries ↔ IsLast pairs key value

theorem collects_of_get? (hnodup : (keys entries).Nodup)
    (hget : ∀ key, get? entries key = get? pairs.reverse key) : Collects entries pairs where
  nodup := hnodup
  mem_keys_iff key := by
    have hreverse : key ∈ keys pairs ↔ key ∈ keys pairs.reverse := by rw [keys_reverse, List.mem_reverse]
    rw [hreverse, ← contains_iff, ← contains_iff, contains, contains, hget]
  mem_iff key value := by
    rw [isLast_iff, ← hget]
    exact ⟨get?_eq_some_of_mem hnodup, mem_of_get?_eq_some⟩

theorem collects_ofList (pairs : List (String × α)) : Collects (ofList pairs) pairs :=
  collects_of_get? (nodup_keys_ofList pairs) (get?_ofList pairs)

theorem collects_sortedOfList (pairs : List (String × α)) : Collects (sortedOfList pairs) pairs :=
  collects_of_get? ((pairwise_keys_sortedOfList pairs).imp ne_of_lt) (get?_sortedOfList pairs)

/-- What is collected from the same pairs differs in the order of the keys alone. -/
theorem Collects.perm {other : Assoc α} (h : Collects entries pairs) (hother : Collects other pairs) :
    entries.Perm other := by
  refine (List.perm_ext_iff_of_nodup (List.Nodup.of_map _ h.nodup) (List.Nodup.of_map _ hother.nodup)).mpr ?_
  rintro ⟨key, value⟩
  rw [h.mem_iff, hother.mem_iff]

/-- The function is called once with each value, in order; each result stands under the key of its value. What is
collected from the results, by arrival or by key, has each key once, with the result of its last value. So both
hold the same, in the order in which the keys first arrived and in increasing order of their bytes. -/
theorem mapped_values_collected (f : σ → α → β × σ) (state : σ) (pairs : List (String × α)) :
    ∃ results,
      mapValues f state pairs = (results, stateAfter f state pairs) ∧
      mapValues (recording f) ([], state) pairs = (results, (pairs.map (·.2), stateAfter f state pairs)) ∧
      results = (pairs.mapIdx fun i pair =>
        (pair.1, (f (stateAfter f state (pairs.take i)) pair.2).1)) ∧
      Collects (sortedOfList results) results ∧ Collects (ofList results) results ∧
      (sortedOfList results).Perm (ofList results) ∧
      (keys (sortedOfList results)).Pairwise (utf8 · < utf8 ·) ∧
      keys (ofList results) = (keys pairs).eraseDups := by
  have hmapped := mapValues_eq f state pairs
  have hkeys := keys_mapValues f state pairs
  rw [hmapped] at hkeys
  refine ⟨_, hmapped, ?_, rfl, collects_sortedOfList _, collects_ofList _,
    (collects_sortedOfList _).perm (collects_ofList _), ?_, ?_⟩
  · rw [mapValues_recording, hmapped, List.nil_append]
  · exact (pairwise_keys_sortedOfList _).imp utf8_lt_utf8
  · rw [keys_ofList, hkeys]

/-- A key that comes twice keeps its first place and has its last result. -/
example :
    let numbered := (mapValues (fun calls (_ : Unit) => (calls, calls + 1)) 0 [("b", ()), ("a", ()), ("b", ())]).1
    numbered = [("b", 0), ("a", 1), ("b", 2)] ∧ ofList numbered = [("b", 2), ("a", 1)] ∧
      sortedOfList numbered = [("a", 1), ("b", 2)] := by decide

end Assoc

end HostBoundary
