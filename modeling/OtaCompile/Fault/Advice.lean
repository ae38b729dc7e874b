import OtaCompile.Fault

/-!
# Advice on faults

What a user is told about a fault: a short message, a stable code, a hint at the remedy, and whether
the same call may succeed next time.
-/

namespace OtaCompile

namespace SessionFault

def hint : SessionFault → Option String
  | notPrepared _ => some "Call prepare before iterating the session."
  | alreadyPrepared => some "Call cleanup before preparing a new session."
  | invariantViolation _ => some "The session was reset. Please report this issue."
  | relocationDuringSession => some "Clean up the current session first."
  | missingComponent _ => none

def code : SessionFault → String
  | notPrepared _ => "session.not_prepared"
  | alreadyPrepared => "session.already_prepared"
  | invariantViolation _ => "session.invariant_violation"
  | relocationDuringSession => "session.relocation_during_session"
  | missingComponent _ => "session.missing_component"

end SessionFault

namespace SettingsFault

def hint : SettingsFault → Option String
  | fileNotFound _ => some "Provide a configuration file with --config."
  | missingField "manifest" =>
    some "Pass --manifest or set paths.manifest in the configuration file."
  | missingField _ => some "Add the missing configuration field noted in the error message."
  | invalid _ | parse _ | invalidValue _ _ =>
    some "Fix the configuration value and retry the command."
  | invalidThreshold _ =>
    some "Set storage.low_space_percent and storage.low_space_max_bytes above zero."

def code : SettingsFault → String
  | fileNotFound _ => "config.not_found"
  | invalid _ => "config.invalid"
  | parse _ => "config.parse_error"
  | missingField _ => "config.missing_field"
  | invalidValue _ _ => "config.invalid_value"
  | invalidThreshold _ => "config.invalid_threshold"

end SettingsFault

namespace StorageFault

def hint : StorageFault → Option String
  | io _ => none
  | volumeQuery _ _ => some "Check that the data volume is mounted."

def code : StorageFault → String
  | io _ => "storage.io_error"
  | volumeQuery _ _ => "storage.volume_query_failed"

end StorageFault

namespace BackendFault

def hint : BackendFault → Option String
  | unsupported _ _ => some "Please report this issue."
  | commandFailed _ _ => none
  | connection _ => some "Check that the execution backend is running."

def code : BackendFault → String
  | unsupported _ _ => "backend.unsupported_operation"
  | commandFailed _ _ => "backend.command_failed"
  | connection _ => "backend.connection_failed"

def isRetryable : BackendFault → Bool
  | connection _ => true
  | _ => false

end BackendFault

def PlatformFault.code : PlatformFault → String
  | fileSystem _ _ => "platform.filesystem_failed"
  | process _ _ => "platform.process_failed"
  | commandNotFound _ => "platform.command_not_found"
  | permission _ _ => "platform.permission_denied"

/-- What a user is told about a failure. -/
structure Advice where
  code : Option String
  message : String
  hint : Option String
  retryable : Bool
deriving DecidableEq, Repr, Inhabited

namespace Advice

def ofSession (f : SessionFault) : Advice := ⟨some f.code, f.message, f.hint, false⟩

def ofSettings (f : SettingsFault) : Advice := ⟨some f.code, f.message, f.hint, false⟩

def ofStorage (f : StorageFault) : Advice := ⟨some f.code, f.message, f.hint, true⟩

def ofBackend (f : BackendFault) : Advice := ⟨some f.code, f.message, f.hint, f.isRetryable⟩

def ofPlatform (f : PlatformFault) : Advice := ⟨some f.code, f.message, none, false⟩

end Advice

/-- Session and backend faults are told without the name of their part. -/
def Fault.advice : Fault → Advice
  | session f => .ofSession f
  | settings f => { Advice.ofSettings f with message := (settings f).message }
  | storage f => { Advice.ofStorage f with message := (storage f).message }
  | backend f => .ofBackend f
  | platform f => { Advice.ofPlatform f with message := (platform f).message }
  | internal reason => ⟨some "error.internal", (internal reason).message, none, false⟩
  | io _ reason _ => ⟨some "error.io", reason, none, true⟩

end OtaCompile
