-- SUMMARY: Filters for events: directives, reading them from a text, and the events that pass.
import HostBoundary.Settings
import HostBoundary.Text.Alphanumeric
import HostBoundary.Text.Split
import HostBoundary.Trace.Event

/-!
# Filters

A filter is a list of directives. Each says for the targets with a given beginning how important an
event must be to pass; the directive with the longest such beginning decides, and of several with
the same one the last. Blanks are part of what they stand beside. A text with a faulty directive is
no filter at all.
-/

namespace HostBoundary

/-- A directive of a filter: the beginning of the targets that it is about, and the greatest rank
of the events that pass. -/
structure Directive where
  target : String
  most : Nat
  deriving DecidableEq, Repr

namespace Directive

/-- The greatest rank that passes, by the name of a level. -/
def named : List (String × Nat) :=
  [("off", 0), ("error", Level.error.rank), ("warn", Level.warn.rank), ("info", Level.info.rank),
    ("debug", Level.debug.rank), ("trace", Level.trace.rank)]

/-- A level by its number, with or without a plus sign. -/
def numbered? (cs : List Char) : Option Nat :=
  let digits := if cs.head? = some '+' then cs.tail else cs
  if digits ≠ [] ∧ digits.all Char.isDigit then
    let n := Decimal.ofDigits digits
    if n ≤ Level.trace.rank then some n else none
  else none

/-- The greatest rank that passes, by the name or the number of a level, in letters of either
case. -/
def level? (cs : List Char) : Option Nat :=
  match numbered? cs with
  | some n => some n
  | none => Assoc.get? named (String.ofList (cs.map Char.toLower))

/-- Whether a directive can begin with a character, blanks aside. -/
def canBegin (c : Char) : Bool := Alphanumeric.contains c || c == '-' || c == ':' || c == '_'

/-- Reads a directive: a level, a target, or a target and a level, with an equals sign between them.
A target alone lets everything pass. Blanks in front make a target that no event has, and cannot
stand in front of a target and a level. -/
def read? (cs : List Char) : Option Directive :=
  if !(Blank.trimFront cs).head?.any canBegin then none
  else if cs.head?.any Blank.contains && cs.contains '=' then none
  else
    match cs.span (· ≠ '=') with
    | (name, []) =>
      match level? name with
      | some most => some { target := "", most }
      | none => some { target := String.ofList name, most := Level.trace.rank }
    | (target, _ :: []) => some { target := String.ofList target, most := Level.trace.rank }
    | (target, _ :: level) =>
      (level? level).map fun most => { target := String.ofList target, most }

end Directive

/-- A filter for events. -/
structure TraceFilter where
  directives : List Directive
  deriving DecidableEq, Repr

namespace TraceFilter

/-- The variable that holds the directives. -/
def key : String := "PACKHOST_LOG"

/-- The filter that is used where none is given: warnings and errors of this program. -/
def default : TraceFilter := ⟨[{ target := "packhost", most := Level.warn.rank }]⟩

/-- The filter of no directives: errors pass. -/
def errorsOnly : TraceFilter := ⟨[{ target := "", most := Level.error.rank }]⟩

/-- Reads a filter: directives with commas between them. -/
def read? (text : String) : Option TraceFilter :=
  match (Text.split ',' text.toList).filter (· ≠ []) with
  | [] => some errorsOnly
  | parts => (parts.mapM Directive.read?).map TraceFilter.mk

/-- The filter of an environment. -/
def ofEnvironment (env : Environment) : TraceFilter :=
  ((env.get? key).bind read?).getD default

/-- The better of two directives for a target: the one with the longer beginning, or the later. -/
def better (target : String) (best : Option Directive) (next : Directive) : Option Directive :=
  if next.target.toList.isPrefixOf target.toList then
    match best with
    | none => some next
    | some found => if found.target.length ≤ next.target.length then some next else some found
  else best

/-- The directive that decides about the events of a target. -/
def deciding? (filter : TraceFilter) (target : String) : Option Directive :=
  filter.directives.foldl (better target) none

/-- Whether an event passes. -/
def passes (filter : TraceFilter) (event : Event) : Bool :=
  (filter.deciding? event.target).any (event.level.rank ≤ ·.most)

end TraceFilter

end HostBoundary
