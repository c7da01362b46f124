-- SUMMARY: The steps of a session, their replies, and runs of many steps.
import HostBoundary.Session.Log

/-!
# Steps

A session goes on step by step. Besides the operations of the log, a step can change the environment,
look at files and change them from outside, or do any computation that reports events.
-/

namespace HostBoundary

/-- A step of a session. -/
inductive Step where
  | verbosity
  | setVerbosity (verbosity : Nat)
  | logPath
  | configureLog (verbosity : Nat) (path : Option String)
  | installFilter
  | record (source message : String)
  | debug (message : String)
  | warn (message : String)
  | start (settings : Settings)
  | startFromEnvironment
  | loadSettings
  | setVariable (key : String) (value : Option String)
  | advisoriesEnabled
  | advisoriesNow
  | advise (content : String)
  | adviseIf (enabled : Bool) (content : String)
  /-- A computation that reports events. -/
  | compute (events : List Event)
  | fileContent (path : String)
  | writeFile (path content : String)
  | makeDirectories (path : String)
  | removeFile (path : String)
  | look (path : String)

/-- The reply to a step. -/
inductive Reply where
  | nothing
  | number (n : Nat)
  | flag (value : Bool)
  | text (text : Option String)
  /-- The content of a file. -/
  | content (content : Option String)
  | node (node : Option Node)
  | logSet (outcome : Except LogError Unit)
  | filterSet (outcome : Except FilterInstalled Unit)
  | started (outcome : Except BoundaryError Unit)
  | startedWith (outcome : Except BoundaryError Settings)
  | loaded (outcome : Except InvalidSetting Settings)

namespace Session

/-- Sets an environment variable or removes it. -/
def withVariable (s : Session) (key : String) (value : Option String) : Session :=
  match value with
  | none => { s with environment := s.environment.erase key }
  | some value => { s with environment := s.environment.insert key value }

/-- Changes the files from outside. Says whether that was possible. -/
def changeFiles (f : FileTree → Except FileError FileTree) : Action Reply := fun s =>
  match f s.files with
  | .ok files => { reply := .flag true, session := { s with files } }
  | .error _ => { reply := .flag false, session := s }

end Session

namespace Step

/-- Does a step. -/
def run : Step → Action Reply
  | verbosity => return .number (← Action.current).verbosity
  | setVerbosity level => do
    Session.setVerbosity level
    return .nothing
  | logPath => return .text (← Action.current).logPath
  | configureLog level path => return .logSet (← Session.configureLog level path)
  | installFilter => return .filterSet (← Session.installFilter)
  | record source message => do
    Session.record source message
    return .nothing
  | debug message => do
    Session.debug message
    return .nothing
  | warn message => do
    Session.warn message
    return .nothing
  | start settings => return .started (← Session.start settings)
  | startFromEnvironment => return .startedWith (← Session.startFromEnvironment)
  | loadSettings => return .loaded (← Session.loadSettings)
  | setVariable key value => do
    Action.modify (·.withVariable key value)
    return .nothing
  | advisoriesEnabled => return .flag (← Session.advisoriesEnabled)
  | advisoriesNow => return .flag (← Action.current).advisoriesNow
  | advise content => do
    Session.advise content
    return .nothing
  | adviseIf enabled content => do
    Session.adviseIf enabled content
    return .nothing
  | compute events => do
    Action.ofTraced { result := (), events }
    return .nothing
  | fileContent path => return .content ((← Action.current).files.read? (.ofPath path))
  | writeFile path content => Session.changeFiles (·.write (.ofPath path) content)
  | makeDirectories path => fun s =>
    let (files, outcome) := s.files.makeDirectories (.ofPath path)
    { reply := .flag outcome.isOk, session := { s with files } }
  | removeFile path => Session.changeFiles (·.remove (.ofPath path))
  | look path => return .node ((← Action.current).files.node? (.ofPath path))

end Step

namespace Session

/-- Does steps in order. Gives the outcome of each, with the session that it left. -/
def outcomes : List Step → Session → List (Outcome Reply)
  | [], _ => []
  | step :: rest, s => step.run s :: outcomes rest (step.run s).session

/-- The session that a sequence of steps leaves. -/
def after (s : Session) (steps : List Step) : Session :=
  steps.foldl (fun s step => (step.run s).session) s

end Session

end HostBoundary
