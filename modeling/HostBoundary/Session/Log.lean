-- SUMMARY: The log of a session: setting it up, recording, and the messages that also go to the console.
import HostBoundary.Session.Basic

/-!
# The log

Every message is appended to the log file, if there is one, and some are shown on the console.
Setting a log up removes an old file; the new one is made by the first record. A record that cannot
be written is dropped.
-/

namespace HostBoundary

/-- Why a log cannot be set up. -/
inductive LogError where
  /-- The directory of the log cannot be made. -/
  | directory (error : FileError)
  /-- The old log cannot be removed. -/
  | truncation (error : FileError)
  deriving DecidableEq, Repr

namespace LogError

/-- The text of an error. -/
def message : LogError → String
  | directory error => "Failed to create log directory: " ++ error.message
  | truncation error => "Failed to truncate log file: " ++ error.message

end LogError

/-- A filter has been installed before. -/
structure FilterInstalled where
  deriving DecidableEq, Repr

namespace FilterInstalled

/-- The text of the error. -/
def message (_ : FilterInstalled) : String :=
  "Failed to install tracing subscriber: " ++
    "a global default trace dispatcher has already been set"

end FilterInstalled

namespace Session

/-- The line of a record. -/
def logLine (clock source message : String) : String :=
  "[" ++ clock ++ "] [" ++ source ++ "] " ++ message ++ "\n"

/-- The source of the messages of this program. -/
def hostSource : String := "HOST"

/-- The source of advisories. -/
def advisorySource : String := "DEPRECATION"

/-- The session with a record in its log; a record that cannot be written is dropped. -/
def recorded (s : Session) (source message : String) : Session :=
  match s.logPath with
  | none => s
  | some path =>
    match s.files.append (.ofPath path) (logLine s.clock source message) with
    | .ok files => { s with files }
    | .error _ => s

/-- Appends a record to the log. -/
def record (source message : String) : Action Unit := Action.modify (·.recorded source message)

/-- Logs a message, and shows it from verbosity one on. -/
def debug (message : String) : Action Unit := do
  record hostSource ("DEBUG " ++ message)
  if 1 ≤ (← Action.current).verbosity then Action.say (.debug message)

/-- Logs a warning and shows it. -/
def warn (message : String) : Action Unit := do
  record hostSource ("WARN " ++ message)
  Action.say (.warning message)

/-- Changes how much the console shows. -/
def setVerbosity (verbosity : Nat) : Action Unit := Action.modify ({ · with verbosity })

/-- Changes where the log goes. Its directory is made and an old log is removed. -/
def moveLog (path : String) : Action (Except LogError Unit) := fun s =>
  let location := Location.ofPath path
  match s.files.makeDirectories (.ofPath (Location.parentPath path)) with
  | (files, .error e) => { reply := .error (.directory e), session := { s with files } }
  | (files, .ok ()) =>
    match files.node? location with
    | none => { reply := .ok (), session := { s with files, logPath := some path } }
    | some _ =>
      match files.remove location with
      | .error e => { reply := .error (.truncation e), session := { s with files } }
      | .ok files => { reply := .ok (), session := { s with files, logPath := some path } }

/-- Changes how much the console shows and, if a path is given, where the log goes. -/
def configureLog (verbosity : Nat) (path : Option String) : Action (Except LogError Unit) := do
  setVerbosity verbosity
  match path with
  | none => return .ok ()
  | some path => moveLog path

/-- Installs the filter that the environment asks for, unless there is one. -/
def installFilter : Action (Except FilterInstalled Unit) := do
  let s ← Action.current
  match s.filter with
  | some _ => return .error {}
  | none =>
    Action.modify ({ · with filter := some (.ofEnvironment s.environment) })
    return .ok ()

/-! ## Advisories -/

/-- Whether the environment as it is turns advisories on. -/
def advisoriesNow (s : Session) : Bool := advisoriesOn (s.environment.get? Environment.advisoriesKey)

/-- Whether advisories are on; the first one to ask decides it from the environment. -/
def advisoriesEnabled : Action Bool := do
  let s ← Action.current
  match s.advisories with
  | some enabled => return enabled
  | none =>
    Action.modify ({ · with advisories := some s.advisoriesNow })
    return s.advisoriesNow

/-- Logs and shows an advisory, if advisories are on. -/
def adviseIf (enabled : Bool) (content : String) : Action Unit :=
  if enabled then do
    record advisorySource content
    Action.say (.advisory content)
  else Action.ofTraced (Traced.report Advisory.suppressed)

/-- Logs and shows an advisory, if advisories are on for this session. -/
def advise (content : String) : Action Unit := do
  adviseIf (← advisoriesEnabled) content

/-! ## Start -/

/-- Sets the session up. That a filter is installed already is no failure, but worth a warning. -/
def start (settings : Settings) : Action (Except BoundaryError Unit) := do
  match ← configureLog settings.verbosity settings.logFile with
  | .error e => return .error (.logging e.message)
  | .ok () =>
    match ← installFilter with
    | .error e => warn e.message
    | .ok () => pure ()
    debug ("packhost initialized (verbosity: " ++ toString settings.verbosity ++
      ", deprecation warnings: " ++ toString settings.advisories ++ ")")
    return .ok ()

/-- Reads the settings of the environment. -/
def loadSettings : Action (Except InvalidSetting Settings) := do
  Action.ofTraced (Settings.load (← Action.current).environment)

/-- Sets the session up as the environment asks for. -/
def startFromEnvironment : Action (Except BoundaryError Settings) := do
  match ← loadSettings with
  | .error e => return .error (.settings e)
  | .ok settings =>
    match ← start settings with
    | .error e => return .error e
    | .ok () => return .ok settings

end Session

end HostBoundary
