-- SUMMARY: The state of a session, what it writes to the console, and actions on it.
import HostBoundary.Advisory
import HostBoundary.Files.Tree
import HostBoundary.Trace.Filter

/-!
# Sessions

A session has an environment, files, a log and a console. What it writes to the console are entries
of four kinds; their text depends on whether there is colour. An action has a reply and leaves a
session behind; what it writes to the console comes in order.
-/

namespace HostBoundary

/-- The state of a session. -/
structure Session where
  /-- How the present time is shown. -/
  clock : String
  environment : Environment := []
  files : FileTree := {}
  /-- How much the console shows. -/
  verbosity : Nat := 0
  /-- The path of the log, if there is one. -/
  logPath : Option String := none
  /-- The filter of the events that are shown, once one is installed. -/
  filter : Option TraceFilter := none
  /-- Whether advisories are on, once that has been decided. -/
  advisories : Option Bool := none

/-! ## The console -/

/-- What is written to the console at a time. -/
inductive Entry where
  | debug (message : String)
  | warning (message : String)
  | advisory (content : String)
  | event (reported : Event)
  deriving DecidableEq, Repr

namespace Entry

/-- A line with an emphasised label. -/
def labelled (style : Style) (colour : Bool) (label message : String) : List Char :=
  style.emphasize colour label.toList ++ ' ' :: (message.toList ++ ['\n'])

/-- The text of an entry that is written at a time. -/
def text (colour : Bool) (time : String) : Entry → List Char
  | debug message => labelled .debug colour "DEBUG:" message
  | warning message => labelled .warning colour "warning:" message
  | advisory content => Advisory.text colour content
  | event reported => (reported.line time).toList ++ ['\n']

end Entry

/-! ## Actions -/

/-- What comes of an action: its reply, what it wrote to the console, and the session it left. -/
structure Outcome (α : Type) where
  reply : α
  console : List Entry := []
  session : Session

/-- An action on a session. -/
def Action (α : Type) := Session → Outcome α

namespace Action

instance : Monad Action where
  pure a s := { reply := a, session := s }
  bind x f s :=
    let first := x s
    let second := f first.reply first.session
    { reply := second.reply, console := first.console ++ second.console, session := second.session }

variable {α β : Type}

@[simp] theorem reply_pure (a : α) (s : Session) : ((pure a : Action α) s).reply = a := rfl

@[simp] theorem console_pure (a : α) (s : Session) : ((pure a : Action α) s).console = [] := rfl

@[simp] theorem session_pure (a : α) (s : Session) : ((pure a : Action α) s).session = s := rfl

@[simp] theorem reply_bind (x : Action α) (f : α → Action β) (s : Session) :
    ((x >>= f) s).reply = (f (x s).reply (x s).session).reply := rfl

@[simp] theorem console_bind (x : Action α) (f : α → Action β) (s : Session) :
    ((x >>= f) s).console = (x s).console ++ (f (x s).reply (x s).session).console := rfl

@[simp] theorem session_bind (x : Action α) (f : α → Action β) (s : Session) :
    ((x >>= f) s).session = (f (x s).reply (x s).session).session := rfl

theorem bind_eq {x : Action α} {f : α → Action β} {s t : Session} {a : α} {shown : List Entry}
    {second : Outcome β} (h : x s = { reply := a, console := shown, session := t })
    (hf : f a t = second) : (x >>= f) s = { second with console := shown ++ second.console } := by
  subst hf
  simp only [bind, h]

/-- An action that writes nothing hands its reply and its session on. -/
theorem bind_eq_of_silent {x : Action α} {f : α → Action β} {s t : Session} {a : α}
    (h : x s = { reply := a, session := t }) : (x >>= f) s = f a t := by
  simp only [bind, h, List.nil_append]

/-- The session as it is. -/
def current : Action Session := fun s => { reply := s, session := s }

theorem current_eq (s : Session) : current s = { reply := s, session := s } := rfl

/-- Changes the session. -/
def modify (f : Session → Session) : Action Unit := fun s => { reply := (), session := f s }

/-- Writes an entry to the console. -/
def say (entry : Entry) : Action Unit := fun s => { reply := (), console := [entry], session := s }

/-- Does the computation; its events are shown as far as they pass the filter. -/
def ofTraced (computation : Traced α) : Action α := fun s =>
  { reply := computation.result
    console :=
      match s.filter with
      | none => []
      | some filter => (computation.events.filter filter.passes).map .event
    session := s }

end Action

end HostBoundary
