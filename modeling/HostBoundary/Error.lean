-- SUMMARY: The errors of the boundary and their texts.

/-!
# Errors of the boundary

A setting can have a value that is not accepted; every other part of the library fails with a
`BoundaryError`, of which an unacceptable setting is one kind.
-/

namespace HostBoundary

/-- A setting whose value is not accepted. -/
structure InvalidSetting where
  key : String
  value : String
  reason : String
  deriving DecidableEq, Repr

namespace InvalidSetting

/-- The text of the error. -/
def message (e : InvalidSetting) : String :=
  "Invalid value '" ++ e.value ++ "' for " ++ e.key ++ ": " ++ e.reason

end InvalidSetting

/-- A failure at the boundary. -/
inductive BoundaryError where
  /-- A value has a kind that the call cannot accept. -/
  | unexpectedKind (expected received : String)
  /-- A payload is not a document; carries the text of the reader's error. -/
  | malformedPayload (reason : String)
  /-- A feature that the engine lacks was asked for. -/
  | notSupported (text : String)
  | settings (error : InvalidSetting)
  /-- The log could not be set up. -/
  | logging (reason : String)
  deriving DecidableEq, Repr

namespace BoundaryError

/-- The text of the error. -/
def message : BoundaryError → String
  | unexpectedKind expected received =>
    "Invalid input: expected " ++ expected ++ ", got " ++ received
  | malformedPayload reason => "Malformed payload: " ++ reason
  | notSupported text => text
  | settings error => "Configuration error: " ++ error.message
  | logging reason => "Failed to initialize logging: " ++ reason

/-- The failure of a feature that the engine lacks. The issue that tracks it is named, unless it
is empty. -/
def lacking (feature : String) (issue : Option String) : BoundaryError :=
  let sentence := feature ++ " is not supported by packhost."
  match issue with
  | none | some "" => .notSupported sentence
  | some issue =>
    .notSupported (sentence ++ " Please refer to issue " ++ issue ++ " for more information.")

end BoundaryError

end HostBoundary
