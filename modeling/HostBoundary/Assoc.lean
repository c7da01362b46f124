-- SUMMARY: Keyed lists: look-up, insertion that keeps the place of a known key, sorted insertion, and mapping the values.

/-!
# Keyed lists

A list of pairs of a key and a value, in the order in which the keys arrived. Inserting under a
known key replaces the value and keeps the place. `ofList` and `sortedOfList` collect pairs whose
keys may repeat: the last value wins, in first-arrival order or in increasing order of the keys.

After a change, the changed key has its new value and every other key the value that it had;
inserting adds at most one key, at the end, and so leaves no key repeated.
-/

namespace HostBoundary

/-- A list of keyed values. -/
abbrev Assoc (α : Type) := List (String × α)

namespace Assoc

variable {α β : Type}

/-- The value under a key: the first one, should the key repeat. -/
def get? : Assoc α → String → Option α
  | [], _ => none
  | (k, v) :: rest, key => if k = key then some v else get? rest key

/-- Whether there is a value under the key. -/
def contains (entries : Assoc α) (key : String) : Bool := (entries.get? key).isSome

/-- Puts a value under a key: in the place of the old value, or at the end if the key is new. -/
def insert (key : String) (value : α) : Assoc α → Assoc α
  | [] => [(key, value)]
  | (k, v) :: rest => if k = key then (k, value) :: rest else (k, v) :: insert key value rest

/-- Puts a value under a key into a list that is sorted by key. -/
def insertSorted (key : String) (value : α) : Assoc α → Assoc α
  | [] => [(key, value)]
  | (k, v) :: rest =>
    if k = key then (k, value) :: rest
    else if key < k then (key, value) :: (k, v) :: rest
    else (k, v) :: insertSorted key value rest

/-- Leaves out every value under the key. -/
def erase (entries : Assoc α) (key : String) : Assoc α := entries.filter (·.1 ≠ key)

/-- Collects pairs in the order of the first arrival of each key. -/
def ofList (pairs : List (String × α)) : Assoc α :=
  pairs.foldl (fun entries pair => entries.insert pair.1 pair.2) []

/-- Collects pairs in increasing order of the keys. -/
def sortedOfList (pairs : List (String × α)) : Assoc α :=
  pairs.foldl (fun entries pair => entries.insertSorted pair.1 pair.2) []

/-- The keys, in order. -/
def keys (entries : Assoc α) : List String := entries.map (·.1)

/-- Maps the values in order, each under its own key. The state of the mapping passes from one
call to the next; the last state is given back. -/
def mapValues {σ κ : Type} (f : σ → α → β × σ) : σ → List (κ × α) → List (κ × β) × σ
  | state, [] => ([], state)
  | state, (key, value) :: rest =>
    let (result, next) := f state value
    let (results, last) := mapValues f next rest
    ((key, result) :: results, last)

/-! ## Look-up after a change -/

theorem get?_insert (entries : Assoc α) (k key : String) (value : α) :
    get? (insert k value entries) key = if k = key then some value else get? entries key := by
  induction entries with
  | nil => rfl
  | cons entry rest ih => grind [insert, get?]

theorem get?_insertSorted (entries : Assoc α) (k key : String) (value : α) :
    get? (insertSorted k value entries) key = if k = key then some value else get? entries key := by
  induction entries with
  | nil => rfl
  | cons entry rest ih => grind [insertSorted, get?]

theorem get?_erase (entries : Assoc α) (k key : String) :
    get? (erase entries k) key = if k = key then none else get? entries key := by
  induction entries with
  | nil => simp [erase, get?]
  | cons entry rest ih => grind [erase, get?]

/-! ## Keys -/

theorem contains_iff (entries : Assoc α) (key : String) :
    contains entries key = true ↔ key ∈ keys entries := by
  induction entries with
  | nil => simp [contains, get?, keys]
  | cons entry rest ih => grind [contains, get?, keys]

/-- Inserting adds the key at the end, or leaves the keys as they are. -/
theorem keys_insert (entries : Assoc α) (key : String) (value : α) :
    keys (insert key value entries) =
      if key ∈ keys entries then keys entries else keys entries ++ [key] := by
  induction entries with
  | nil => rfl
  | cons entry rest ih => grind [insert, keys]

theorem nodup_keys_insert {entries : Assoc α} (key : String) (value : α)
    (h : (keys entries).Nodup) : (keys (insert key value entries)).Nodup := by
  rw [keys_insert]
  split
  · exact h
  · rw [List.nodup_append]
    grind

/-- Collecting pairs leaves no key repeated. -/
theorem nodup_keys_ofList (pairs : List (String × α)) : (keys (ofList pairs)).Nodup := by
  suffices ∀ entries : Assoc α, (keys entries).Nodup →
      (keys (pairs.foldl (fun entries pair => insert pair.1 pair.2 entries) entries)).Nodup from
    this [] .nil
  induction pairs with
  | nil => exact fun _ h => h
  | cons pair rest ih => exact fun entries h => ih _ (nodup_keys_insert _ _ h)

end Assoc

end HostBoundary
