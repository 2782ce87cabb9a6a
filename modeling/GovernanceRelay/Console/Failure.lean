import GovernanceRelay.LogFilter
import GovernanceRelay.Review
import GovernanceRelay.Storage

/-!
# Failures of commands

Why a command of the program fails. The wording of a failure tells the causes behind it as well,
where its own wording does not hold all there is.
-/

set_option autoImplicit false

namespace GovernanceRelay

/-- The wordings of a refusal and of the causes behind it. -/
def TimelockError.causes : TimelockError → List String
  | .wire error => [(TimelockError.wire error).message, error.message]
  | error => [error.message]

/-- The wordings of a refusal and of the causes behind it. -/
def ForwardError.causes : ForwardError → List String
  | .refused error => (ForwardError.refused error).message :: error.causes
  | error => [error.message]

/-- The wordings of a refusal of a pattern and of the causes behind it. -/
def PatternRefusal.causes (pattern : List Char) : PatternRefusal → List String
  | .faulty fault =>
    [(PatternRefusal.faulty fault).message, "error parsing regex", fault.report pattern]
  | .wordBoundary => [PatternRefusal.wordBoundary.message]

/-- The wordings of a fault in a log filter and of the causes behind it. A level has a fault of its
own, in the same words, and a field has that of its pattern. -/
def LogFilterError.causes : LogFilterError → List String
  | .directive => [LogFilterError.directive.message]
  | .level => [LogFilterError.level.message, LogFilterError.level.message]
  | .field pattern refusal =>
    (LogFilterError.field pattern refusal).message :: refusal.causes pattern

/-- Why a command fails. -/
inductive Failure where
  /-- The settings are refused. -/
  | settings (error : SettingsError)
  /-- The file with the settings is not read. -/
  | unreadableSettings (path : String) (error : DiskError)
  /-- The file has no settings. -/
  | malformedSettings (path : String)
  /-- The file for the settings is not written. -/
  | unwritableSettings (path : String) (error : DiskError)
  /-- There is a file already where default settings are to be written. -/
  | settingsExist (path : String)
  /-- The filter of what is logged is none. -/
  | logFilter (error : LogFilterError)
  /-- The file for the log is not opened. -/
  | unwritableLog (path : String) (error : DiskError)
  /-- The file with a batch is not read. -/
  | unreadableBatch (path : String) (error : DiskError)
  /-- The file has no batch. -/
  | malformedBatch (path : String)
  /-- A text is not hexadecimal. -/
  | hex (error : Hex.Error)
  /-- A byte string is no batch. -/
  | undecodable (error : WireError)
  /-- A batch has no wire format. -/
  | unencodable (error : WireError)
  /-- A text is no selector. -/
  | selector (error : IdentifierError)
  /-- There is no governance to work on. -/
  | opening (error : OpeningError)
  /-- The governance is not saved. -/
  | saving (error : StorageError)
  /-- The governance refuses. -/
  | governance (error : GovernanceError)
  /-- The review objects. -/
  | offence (offence : Offence)
  /-- The batch is not forwarded. -/
  | forward (error : ForwardError)
  /-- The file for the counters is not written. -/
  | unwritableCounters (error : DiskError)
deriving DecidableEq

/-- The wording of each failure. -/
def Failure.message : Failure → String
  | .settings error => error.message
  | .unreadableSettings path error =>
    "Failed to read config file '" ++ path ++ "': " ++ error.message
  | .malformedSettings path => "Failed to parse config file '" ++ path ++ "'"
  | .unwritableSettings path error =>
    "Failed to write config file '" ++ path ++ "': " ++ error.message
  | .settingsExist path => path ++ " already exists (use --force to overwrite)"
  | .logFilter error => ": ".intercalate error.causes
  | .unwritableLog path error => "Failed to open log file '" ++ path ++ "': " ++ error.message
  | .unreadableBatch path error => "Failed to read batch file '" ++ path ++ "': " ++ error.message
  | .malformedBatch path => "Failed to parse batch file '" ++ path ++ "'"
  | .hex error => error.message
  | .undecodable error => "Failed to decode command buffer: " ++ error.message
  | .unencodable error => error.message
  | .selector error => error.message
  | .opening error => error.message
  | .saving error => error.message
  | .governance error => error.message
  | .offence objection => objection.message
  | .forward error => ": ".intercalate error.causes
  | .unwritableCounters error => error.message

end GovernanceRelay
