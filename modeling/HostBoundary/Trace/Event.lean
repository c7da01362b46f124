-- SUMMARY: Diagnostic events, their text, and computations that give rise to events.
import HostBoundary.Assoc
import HostBoundary.Text.Quoted

/-!
# Events

Parts of the library report what they do as events. A computation that reports events is a result
together with the events, in order; whoever runs it decides what becomes of them.
-/

namespace HostBoundary

/-- How important an event is, from the most to the least important. -/
inductive Level where
  | error
  | warn
  | info
  | debug
  | trace
  deriving DecidableEq, Repr

namespace Level

/-- The name of a level. -/
def name : Level → String
  | error => "ERROR"
  | warn => "WARN"
  | info => "INFO"
  | debug => "DEBUG"
  | trace => "TRACE"

/-- The rank of a level; the least important event has the highest. -/
def rank : Level → Nat
  | error => 1
  | warn => 2
  | info => 3
  | debug => 4
  | trace => 5

end Level

/-- A detail of an event. -/
inductive Detail where
  /-- A text, which is shown between quotes. -/
  | quoted (text : String)
  /-- A text that is shown as it is. -/
  | plain (text : String)
  /-- A text in a form for inspection, which is shown as it is. -/
  | inspected (text : String)
  | flag (value : Bool)
  deriving DecidableEq, Repr

namespace Detail

/-- A detail as it is shown in a line. -/
def shown : Detail → String
  | quoted text => Quoted.write text
  | plain text => text
  | inspected text => text
  | flag value => toString value

end Detail

/-- A diagnostic event. The target names the part of the program that reports it. -/
structure Event where
  level : Level
  target : String
  message : String
  details : Assoc Detail := []
  deriving DecidableEq, Repr

namespace Event

/-- The line that shows an event that happened at the given time. -/
def line (event : Event) (time : String) : String :=
  let level := event.level.name
  let head :=
    time ++ " " ++ String.ofList (List.replicate (5 - level.length) ' ') ++ level ++ " " ++
      event.target ++ ": " ++ event.message
  event.details.foldl (fun line detail => line ++ " " ++ detail.1 ++ "=" ++ detail.2.shown) head

end Event

/-! ## Computations with events -/

/-- A result and the events that were reported on the way to it. -/
structure Traced (α : Type) where
  result : α
  events : List Event := []

namespace Traced

instance : Monad Traced where
  pure a := { result := a }
  bind x f := { result := (f x.result).result, events := x.events ++ (f x.result).events }

/-- Reports an event. -/
def report (event : Event) : Traced Unit := { result := (), events := [event] }

variable {α β : Type}

@[simp] theorem result_pure (a : α) : (pure a : Traced α).result = a := rfl

@[simp] theorem events_pure (a : α) : (pure a : Traced α).events = [] := rfl

@[simp] theorem result_bind (x : Traced α) (f : α → Traced β) :
    (x >>= f).result = (f x.result).result := rfl

@[simp] theorem events_bind (x : Traced α) (f : α → Traced β) :
    (x >>= f).events = x.events ++ (f x.result).events := rfl

@[simp] theorem events_report (event : Event) : (report event).events = [event] := rfl

end Traced

end HostBoundary
