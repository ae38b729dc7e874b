import OtaCompile.Path
import OtaCompile.Fault.IoKind

/-!
# Faults

What can go wrong, by the part of the coordinator that meets it, and the message of each fault.
`Fault` joins the parts and puts the part's name in front of the message.
-/

namespace OtaCompile

/-- Misuse of a session, or a service that lacks a part. -/
inductive SessionFault
  | notPrepared (operation : String)
  | alreadyPrepared
  | invariantViolation (package : String)
  | relocationDuringSession
  | missingComponent (component : String)
deriving DecidableEq, Repr

def SessionFault.message : SessionFault → String
  | notPrepared operation => s!"{operation} called before prepare()"
  | alreadyPrepared => "already called prepare()"
  | invariantViolation package => s!"command queue left empty for {package}"
  | relocationDuringSession => "cannot relocate artifacts while a dexopt session is active"
  | missingComponent component => s!"missing component: {component}"

inductive SettingsFault
  | fileNotFound (path : String)
  | invalid (reason : String)
  | parse (reason : String)
  | missingField (field : String)
  | invalidValue (field value : String)
  | invalidThreshold (volume : String)
deriving DecidableEq, Repr

def SettingsFault.message : SettingsFault → String
  | fileNotFound path => s!"config file not found: {path}"
  | invalid reason => s!"invalid config: {reason}"
  | parse reason => s!"parse error: {reason}"
  | missingField field => s!"missing required field: {field}"
  | invalidValue field value => s!"invalid value for {field}: {value}"
  | invalidThreshold volume => s!"invalid low space threshold for {volume}"

inductive StorageFault
  | io (reason : String)
  | volumeQuery (path reason : String)
deriving DecidableEq, Repr

def StorageFault.message : StorageFault → String
  | io reason => s!"IO error: {reason}"
  | volumeQuery path reason => s!"failed to query volume {path}: {reason}"

inductive BackendFault
  | unsupported (backend operation : String)
  | commandFailed (command : String) (status : Int32)
  | connection (reason : String)
deriving DecidableEq, Repr

def BackendFault.message : BackendFault → String
  | unsupported backend operation => s!"operation not supported by {backend} backend: {operation}"
  | commandFailed command status => s!"command failed with status {status}: {command}"
  | connection reason => s!"backend connection failed: {reason}"

inductive PlatformFault
  | fileSystem (operation reason : String)
  | process (command reason : String)
  | commandNotFound (command : String)
  | permission (operation reason : String)
deriving DecidableEq, Repr

def PlatformFault.message : PlatformFault → String
  | fileSystem operation reason => s!"filesystem operation failed: {operation} - {reason}"
  | process command reason => s!"process execution failed: {command} - {reason}"
  | commandNotFound command => s!"command not found: {command}"
  | permission operation reason => s!"permission denied: {operation} - {reason}"

inductive Fault
  | session (f : SessionFault)
  | settings (f : SettingsFault)
  | storage (f : StorageFault)
  | backend (f : BackendFault)
  | platform (f : PlatformFault)
  | internal (reason : String)
  | io (kind : IoKind) (reason : String) (path : Option Path)
deriving DecidableEq, Repr

namespace Fault

instance : Coe SessionFault Fault := ⟨.session⟩
instance : Coe SettingsFault Fault := ⟨.settings⟩
instance : Coe StorageFault Fault := ⟨.storage⟩
instance : Coe BackendFault Fault := ⟨.backend⟩
instance : Coe PlatformFault Fault := ⟨.platform⟩

def message : Fault → String
  | session f => "session error: " ++ f.message
  | settings f => "config error: " ++ f.message
  | storage f => "storage error: " ++ f.message
  | backend f => "backend error: " ++ f.message
  | platform f => "platform error: " ++ f.message
  | internal reason => "internal error: " ++ reason
  | io _ reason _ => "I/O error: " ++ reason

/-- Whether a session was asked for something out of turn. -/
def isProtocolMisuse : Fault → Bool
  | session (.notPrepared _) | session .alreadyPrepared => true
  | _ => false

end Fault

/-- A backend that cannot be reached at all reports the platform's reason. -/
def PlatformFault.toBackend (f : PlatformFault) : BackendFault := .connection f.message

/-- What the operating system says about a call that failed. -/
structure IoFailure where
  kind : IoKind
  message : String
deriving DecidableEq, Repr

namespace IoFailure

def toFault (f : IoFailure) (path : Option Path) : Fault := .io f.kind f.message path

def toStorage (f : IoFailure) : StorageFault := .io f.message

end IoFailure

end OtaCompile
