-- SUMMARY: Settings read from environment variables.
import HostBoundary.Assoc
import HostBoundary.Decimal.Digits
import HostBoundary.Error
import HostBoundary.Text.Blank
import HostBoundary.Text.Utf8
import HostBoundary.Trace.Event

/-!
# Settings

Everything that can be set comes from three environment variables: whether advisories are printed,
how much the console shows, and where the log goes.
-/

namespace HostBoundary

/-! ## Environments -/

/-- The environment variables that are set to a text. -/
abbrev Environment := Assoc String

namespace Environment

/-- The variable that turns advisories off. -/
def advisoriesKey : String := "PACKHOST_DEP_WARNINGS"

/-- The variable that says how much the console shows. -/
def verbosityKey : String := "PACKHOST_VERBOSE"

/-- The variable that says where the log goes. -/
def logFileKey : String := "PACKHOST_LOG_FILE"

/-- The environment of raw values; a value that is no text counts as unset. -/
def ofRaw (raw : List (String × Bytes)) : Environment :=
  raw.filterMap fun entry => (Utf8.decode? entry.2).map fun cs => (entry.1, String.ofList cs)

end Environment

/-! ## Single settings -/

/-- Whether advisories are on, given the value of their variable: only two values turn them off. -/
def advisoriesOn : Option String → Bool
  | some "false" | some "0" => false
  | _ => true

/-- What is wrong with a verbosity. -/
inductive VerbosityFault where
  | invalidDigit
  | tooLarge
  | outOfRange
  deriving DecidableEq, Repr

namespace Verbosity

/-- The greatest verbosity. -/
def most : Nat := 2

/-- The greatest number that is read at all: that of eight bits. -/
def wordMax : Nat := 0xFF

/-- The text of a fault. -/
def reason : VerbosityFault → String
  | .invalidDigit => "invalid digit found in string"
  | .tooLarge => "number too large to fit in target type"
  | .outOfRange => "expected a level between 0 and " ++ toString most

/-- Reads digits onto a number, from left to right. Each character must be a digit and must leave
the number within eight bits; the first one at fault decides. -/
def readDigits (n : Nat) : List Char → Except VerbosityFault Nat
  | [] => .ok n
  | c :: rest =>
    if c.isDigit then
      let longer := n * 10 + Decimal.digitValue c
      if longer ≤ wordMax then readDigits longer rest else .error .tooLarge
    else .error .invalidDigit

/-- Reads an 8-bit number: one digit or more, after at most one plus sign. -/
def readWord : List Char → Except VerbosityFault Nat
  | [] => .error .invalidDigit
  | ['+'] => .error .invalidDigit
  | '+' :: rest => readDigits 0 rest
  | cs => readDigits 0 cs

/-- Reads a verbosity. Blanks around it do not count, and nothing between them is zero. -/
def read (raw : String) : Except VerbosityFault Nat :=
  match Blank.trim raw.toList with
  | [] => .ok 0
  | cs => do
    let n ← readWord cs
    if n ≤ most then .ok n else .error .outOfRange

end Verbosity

/-! ## Settings -/

/-- All settings. -/
structure Settings where
  advisories : Bool := true
  verbosity : Nat := 0
  logFile : Option String := none
  deriving DecidableEq, Repr

namespace Settings

/-- Where the log goes, given the value of the variable. Blanks around it do not count. -/
def readLogFile (raw : String) : Option String :=
  match Blank.trim raw.toList with
  | [] => none
  | cs => some (String.ofList cs)

/-- The settings of an environment. -/
def ofEnvironment (env : Environment) : Except InvalidSetting Settings := do
  let verbosity ← match env.get? Environment.verbosityKey with
    | none => .ok 0
    | some raw =>
      (Verbosity.read raw).mapError fun fault =>
        { key := Environment.verbosityKey, value := raw, reason := Verbosity.reason fault }
  return {
    advisories := advisoriesOn (env.get? Environment.advisoriesKey)
    verbosity := verbosity
    logFile := (env.get? Environment.logFileKey).bind readLogFile }

/-- The settings in a form for inspection. -/
def inspect (settings : Settings) : String :=
  let logFile := match settings.logFile with
    | none => "None"
    | some path => "Some(" ++ Quoted.write path ++ ")"
  "HostConfig \x7b dep_warnings: " ++ toString settings.advisories ++ ", verbosity: " ++
    toString settings.verbosity ++ ", log_file: " ++ logFile ++ " \x7d"

/-- Reads the settings of an environment and reports them. -/
def load (env : Environment) : Traced (Except InvalidSetting Settings) := do
  match ofEnvironment env with
  | .error e => return .error e
  | .ok settings =>
    Traced.report
      { level := .debug
        target := "packhost_config"
        message := "loaded host configuration"
        details := [("config", .inspected settings.inspect)] }
    return .ok settings

end Settings

end HostBoundary
