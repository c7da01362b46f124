-- SUMMARY: Maps from places in a hierarchy of names: look-up, change, and look-up after a change.
import HostBoundary.Assoc

/-!
# Maps of places

A place is a list of names, the outermost first. A map keeps what it holds for a place inside the
part that it has for the first name of the place, so that a look-up takes one search for each name.

After a change at a place the map holds there what it was given, and elsewhere what it held.
-/

namespace HostBoundary

/-- A map from places: what it holds for the place without names, and a map of the places that go on
from it for each first name. -/
inductive PlaceMap (α : Type) where
  | node (value : Option α) (parts : List (String × PlaceMap α))

namespace PlaceMap

variable {α : Type}

/-- The map that holds nothing. -/
def empty : PlaceMap α := node none []

/-- What the map holds for the place without names. -/
def value : PlaceMap α → Option α
  | node value _ => value

/-- The maps of the places that start with each name. -/
def parts : PlaceMap α → Assoc (PlaceMap α)
  | node _ parts => parts

/-- The map of the places that start with a name, without that name. -/
def part (map : PlaceMap α) (name : String) : PlaceMap α := (map.parts.get? name).getD empty

/-- What the map holds for a place. -/
def get? : PlaceMap α → List String → Option α
  | map, [] => map.value
  | map, name :: rest => get? (map.part name) rest

/-- The map that holds a value for a place, or nothing. -/
def set (value : Option α) : List String → PlaceMap α → PlaceMap α
  | [], map => node value map.parts
  | name :: rest, map =>
    node map.value (Assoc.insert name (set value rest (map.part name)) map.parts)

theorem part_set (value : Option α) (name other : String) (rest : List String)
    (map : PlaceMap α) :
    (set value (name :: rest) map).part other =
      if name = other then set value rest (map.part name) else map.part other := by
  simp only [set, part, parts, Assoc.get?_insert]
  split <;> rfl

theorem get?_set (value : Option α) (place other : List String) (map : PlaceMap α) :
    (set value place map).get? other = if place = other then value else map.get? other := by
  induction place generalizing map other with
  | nil => cases other <;> rfl
  | cons name rest ih =>
    cases other with
    | nil => rfl
    | cons first more =>
      rw [get?, part_set]
      by_cases h : name = first
      · simp [h, ih, get?]
      · simp [h, get?]

end PlaceMap

end HostBoundary
