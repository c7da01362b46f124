-- SUMMARY: What array is read as a record: one that holds the values of the first fields in order, where no later field must be there.
import HostBoundary.Json.Record

/-!
# Records from arrays

An array is read as a record item by item. Which record that gives depends on the places of the items
only, so arrays of quite different meaning are read as records, as long as each item is a value of the
field at its place. `InOrder` says so field by field.
-/

namespace HostBoundary

namespace Json

variable {α : Type} {value : Json → Except Cause α}

/-- The items of an array are the values of the first fields of a record, and no later field must be
there. The fields found are those with an item. -/
inductive InOrder (value : Json → Except Cause α) :
    List (String × Bool) → List Json → Assoc α → Prop
  | done (left : List (String × Bool)) (hleft : ∀ field ∈ left, field.2 = false) :
      InOrder value left [] []
  | item (field : String × Bool) (left : List (String × Bool)) (doc : Json) (rest : List Json) (v : α)
      (found : Assoc α) (hv : value doc = .ok v) (hrest : InOrder value left rest found) :
      InOrder value (field :: left) (doc :: rest) ((field.1, v) :: found)

theorem tooShort?_eq_none_iff {format : RecordFormat} {count : Nat} {left : List (String × Bool)} :
    format.tooShort? count left = none ↔ ∀ field ∈ left, field.2 = false := by
  simp [RecordFormat.tooShort?]

/-- Where the items end, no further field must be there. -/
theorem recordOfItems_nil_eq_ok_iff {format : RecordFormat} {count : Nat} {found result : Assoc α}
    {left : List (String × Bool)} :
    recordOfItems format value count found left [] = .ok result ↔
      (∀ field ∈ left, field.2 = false) ∧ result = found := by
  rw [← @tooShort?_eq_none_iff format found.length left]
  cases hshort : format.tooShort? found.length left with
  | some cause =>
    have hend : recordOfItems format value count found left [] = .error cause := by
      cases left with
      | nil => cases hshort
      | cons field left => simp [recordOfItems, hshort]
    simp [hend]
  | none =>
    have hend : recordOfItems format value count found left [] = .ok found := by
      cases left with
      | nil => rfl
      | cons field left => simp [recordOfItems, hshort]
    simp [hend, eq_comm]

/-- Reading items as fields behind those found adds the fields that are in order with the items. -/
theorem recordOfItems_eq_ok_iff {format : RecordFormat} {count : Nat} {found result : Assoc α}
    {left : List (String × Bool)} {items : List Json} :
    recordOfItems format value count found left items = .ok result ↔
      ∃ more, InOrder value left items more ∧ result = found ++ more := by
  induction items generalizing found left with
  | nil =>
    rw [recordOfItems_nil_eq_ok_iff]
    constructor
    · rintro ⟨hleft, rfl⟩
      exact ⟨[], .done left hleft, (List.append_nil _).symm⟩
    · rintro ⟨more, hmore, rfl⟩
      cases hmore with
      | done _ hleft => exact ⟨hleft, List.append_nil _⟩
  | cons doc rest ih =>
    cases left with
    | nil =>
      constructor
      · intro h
        cases h
      · rintro ⟨more, hmore, -⟩
        cases hmore
    | cons field left =>
      rw [recordOfItems]
      cases hv : value doc with
      | error cause =>
        constructor
        · intro h
          cases h
        · rintro ⟨more, hmore, -⟩
          cases hmore with
          | item _ _ _ _ v _ hok _ =>
            rw [hv] at hok
            cases hok
      | ok v =>
        have hplace (more : Assoc α) :
            (found ++ [(field.1, v)]) ++ more = found ++ (field.1, v) :: more :=
          List.append_assoc found [(field.1, v)] more
        refine ih.trans ⟨?_, ?_⟩
        · rintro ⟨more, hmore, rfl⟩
          exact ⟨_, .item field left doc rest v more hv hmore, hplace more⟩
        · rintro ⟨more, hmore, rfl⟩
          cases hmore with
          | item _ _ _ _ w more hok hmore =>
            rw [hv] at hok
            cases hok
            exact ⟨more, hmore, (hplace more).symm⟩

end Json

end HostBoundary
