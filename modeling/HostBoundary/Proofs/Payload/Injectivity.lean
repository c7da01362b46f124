-- SUMMARY: Different structured payloads of integers are sent as different bytes, at any depth.
import HostBoundary.Proofs.Payload.RoundTrip

/-!
# Different payloads

The bytes that a structured payload of integers is sent as belong to no other such payload. This does
not rest on reading them back: a payload that is too deep for the receiver is sent as bytes of its
own, too.
-/

namespace HostBoundary

/-- No two documents of integers have the same compact form in bytes. -/
theorem Json.toBytes_inj {doc other : Json} (h : doc.isIntegral) (hother : other.isIntegral)
    (heq : doc.toBytes = other.toBytes) : doc = other :=
  write_inj h hother (Utf8.encode_injective heq)

namespace Payload

/-- A structured payload is nothing but its document. -/
theorem eq_ofJson_of_structured {p : Payload} {doc : Json} (h : p.structured? = some doc) :
    p = ofJson doc := by
  cases p with
  | undefined | null | text | bytes => cases h
  | bool | number | array | object =>
    cases h
    rfl

/-- A structured payload of integers is sent as bytes, whatever its depth, and another one is sent as
the same bytes exactly if it is the same payload, with the same order of keys at every level. -/
theorem sent_alike_iff {p q : Payload} {doc other : Json} (hp : p.structured? = some doc)
    (hq : q.structured? = some other) (h : doc.isIntegral) (hother : other.isIntegral) :
    ∃ wire, (toWire (some p)).run.result = .ok (some wire) ∧
      ((toWire (some q)).run.result = .ok (some wire) ↔ p = q) := by
  refine ⟨doc.toBytes, result_toWire_of_structured hp, ?_, ?_⟩
  · intro hsent
    rw [result_toWire_of_structured hq] at hsent
    have hbytes : other.toBytes = doc.toBytes := Option.some.inj (Except.ok.inj hsent)
    have hdoc : other = doc := Json.toBytes_inj hother h hbytes
    rw [eq_ofJson_of_structured hp, eq_ofJson_of_structured hq, hdoc]
  · rintro rfl
    exact result_toWire_of_structured hp

/-- Fields under two keys, as often inside an array as is said, in one order or the other. -/
def deepFields (swapped : Bool) : Nat → Json
  | 0 =>
    if swapped then .object [("b", .null), ("a", .number (.int 12 (by decide)))]
    else .object [("a", .number (.int 12 (by decide))), ("b", .null)]
  | depth + 1 => .array [deepFields swapped depth]

theorem deepFields_ne (depth : Nat) : deepFields false depth ≠ deepFields true depth := by
  induction depth with
  | zero =>
    intro heq
    have hkey : "a" = "b" := congrArg Prod.fst (List.cons.inj (Json.object.inj heq)).1
    exact absurd hkey (by decide)
  | succ depth ih =>
    intro heq
    exact ih (List.cons.inj (Json.array.inj heq)).1

/-- Beyond the depth that is read back, payloads that differ in the order of their innermost keys only
are still sent apart. -/
theorem deepFields_sent_apart :
    Json.maxDepth < (Json.array [deepFields false 150]).depth ∧
      ∃ wire, (toWire (some (.array [deepFields false 150]))).run.result = .ok (some wire) ∧
        (toWire (some (.array [deepFields true 150]))).run.result ≠ .ok (some wire) := by
  obtain ⟨wire, hwire, hiff⟩ := sent_alike_iff (p := .array [deepFields false 150])
    (q := .array [deepFields true 150]) rfl rfl (by decide +kernel) (by decide +kernel)
  refine ⟨by decide +kernel, wire, hwire, ?_⟩
  intro hsent
  have heq := List.cons.inj (Payload.array.inj (hiff.mp hsent))
  exact deepFields_ne 150 heq.1

end Payload

end HostBoundary
