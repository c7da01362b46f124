-- SUMMARY: JSON documents: numbers of two sorts, trees with ordered fields, nesting depth, equality that ignores field order, and the merging of repeated keys.
import HostBoundary.Assoc

/-!
# JSON documents

A number is an integer of one machine word or a float; the two sorts never compare equal. Fields
keep the order in which they arrived. A text may repeat a key, so the tree read from it may, too;
`Json.merged` keeps the first place and the last value of each key at every level, and `IsMerged`
says that no key repeats.
-/

namespace HostBoundary

/-! ## Numbers -/

/-- The integers that a document holds as integers: those of a signed or an unsigned 64-bit word. -/
abbrev IsWord (n : Int) : Prop := -0x8000000000000000 ≤ n ∧ n < 0x10000000000000000

/-- A number of a document. -/
inductive Number where
  | int (value : Int) (isWord : IsWord value)
  | float (value : Float)

namespace Number

/-- Equality of numbers of the same sort. Floats compare by value: zeros are equal, and what is
not a number equals nothing. -/
def same : Number → Number → Bool
  | .int n _, .int m _ => n == m
  | .float x, .float y => x == y
  | _, _ => false

/-- The nearest float of an integer of one word. -/
def floatOfInt (n : Int) : Float :=
  if n < 0 then -n.natAbs.toUInt64.toFloat else n.natAbs.toUInt64.toFloat

/-- The number as a float. -/
def toFloat : Number → Float
  | .int n _ => floatOfInt n
  | .float x => x

/-- Whether the number is an integer. -/
def isInt : Number → Bool
  | .int _ _ => true
  | .float _ => false

end Number

/-! ## Documents -/

/-- A JSON document. -/
inductive Json where
  | null
  | bool (value : Bool)
  | number (value : Number)
  | string (text : String)
  | array (items : List Json)
  | object (fields : List (String × Json))

instance : Inhabited Json := ⟨.null⟩

/-- The fields of an object. -/
abbrev Fields := Assoc Json

namespace Json

/-- The text of a string document. -/
def text? : Json → Option String
  | string text => some text
  | _ => none

mutual

/-- How many arrays and objects stand inside one another. -/
def depth : Json → Nat
  | array items => depthItems items + 1
  | object fields => depthFields fields + 1
  | _ => 0

/-- The greatest depth of a list of documents. -/
def depthItems : List Json → Nat
  | [] => 0
  | item :: rest => max (depth item) (depthItems rest)

/-- The greatest depth of the values of an object. -/
def depthFields : List (String × Json) → Nat
  | [] => 0
  | (_, value) :: rest => max (depth value) (depthFields rest)

end

mutual

/-- Whether every number at every level is an integer. -/
def isIntegral : Json → Bool
  | number n => n.isInt
  | array items => isIntegralItems items
  | object fields => isIntegralFields fields
  | _ => true

/-- Whether every number in a list of documents is an integer. -/
def isIntegralItems : List Json → Bool
  | [] => true
  | item :: rest => isIntegral item && isIntegralItems rest

/-- Whether every number in the values of an object is an integer. -/
def isIntegralFields : List (String × Json) → Bool
  | [] => true
  | (_, value) :: rest => isIntegral value && isIntegralFields rest

end

mutual

/-- No object at any level repeats a key. -/
def IsMerged : Json → Prop
  | array items => IsMergedItems items
  | object fields => (Assoc.keys fields).Nodup ∧ IsMergedFields fields
  | _ => True

/-- No object in a list of documents repeats a key. -/
def IsMergedItems : List Json → Prop
  | [] => True
  | item :: rest => IsMerged item ∧ IsMergedItems rest

/-- No object in the values of an object repeats a key. -/
def IsMergedFields : List (String × Json) → Prop
  | [] => True
  | (_, value) :: rest => IsMerged value ∧ IsMergedFields rest

end

mutual

/-- The document with repeated keys merged: each key keeps its first place and its last value. -/
def merged : Json → Json
  | array items => array (mergedItems items)
  | object fields => object (Assoc.ofList (mergedFields fields))
  | other => other

/-- Merges repeated keys in a list of documents. -/
def mergedItems : List Json → List Json
  | [] => []
  | item :: rest => merged item :: mergedItems rest

/-- Merges repeated keys inside the values of an object. -/
def mergedFields : List (String × Json) → List (String × Json)
  | [] => []
  | (key, value) :: rest => (key, merged value) :: mergedFields rest

end

mutual

/-- Equality of documents, whatever the order of the fields at each level. -/
def same : Json → Json → Bool
  | null, null => true
  | bool a, bool b => a == b
  | number a, number b => a.same b
  | string a, string b => a == b
  | array as, array bs => sameItems as bs
  | object as, object bs => as.length == bs.length && sameFields as bs
  | _, _ => false

/-- Equality of two lists of documents, item by item. -/
def sameItems : List Json → List Json → Bool
  | [], [] => true
  | a :: as, b :: bs => same a b && sameItems as bs
  | _, _ => false

/-- Whether each field has an equal one under the same key among the others. -/
def sameFields : List (String × Json) → List (String × Json) → Bool
  | [], _ => true
  | (key, a) :: rest, others =>
    (match Assoc.get? others key with
      | some b => same a b
      | none => false) && sameFields rest others

end

end Json

end HostBoundary
