import OtaCompile.Fault
import OtaCompile.Fault.Advice
import OtaCompile.Json.Decode

/-!
# Faults in JSON

A fault is an object whose one member names it; a fault without fields is its name alone.  The kind
of an input or output failure is written by name and read back as far as the name is known.
-/

namespace OtaCompile

/-- One alternative with fields: its name and a record. -/
def Json.alternative (name : String) (fields : List (String × Json)) : Json :=
  .obj [(name, .obj fields)]

def Json.bareAlternative? (body : Option Json) : Option Unit :=
  match body with
  | none => some ()
  | some j => if Dialect.json.emptyBody j then some () else none

variable {α β : Type}

/-- Read an alternative that has one text. -/
def Json.oneText? (name : String) (make : String → β) (body : Option Json) : Option β := do
  let r ← Json.body? [name] body
  return make (← r.required .json name)

/-- Read an alternative that has two texts. -/
def Json.twoTexts? (first second : String) (make : String → String → β) (body : Option Json) :
    Option β := do
  let r ← Json.body? [first, second] body
  return make (← r.required .json first) (← r.required .json second)

instance : Encode SessionFault where
  encode
    | .notPrepared operation => .alternative "NotPrepared" [("operation", encode operation)]
    | .alreadyPrepared => .str "AlreadyPrepared"
    | .invariantViolation package =>
      .alternative "InvariantViolation" [("package", encode package)]
    | .relocationDuringSession => .str "RelocationDuringSession"
    | .missingComponent component =>
      .alternative "MissingComponent" [("component", encode component)]

instance : Decode SessionFault where
  decode? _ j := do
    let (name, body) ← j.alternative?
    match name with
    | "NotPrepared" => Json.oneText? "operation" .notPrepared body
    | "AlreadyPrepared" => (Json.bareAlternative? body).map fun _ => .alreadyPrepared
    | "InvariantViolation" => Json.oneText? "package" .invariantViolation body
    | "RelocationDuringSession" =>
      (Json.bareAlternative? body).map fun _ => .relocationDuringSession
    | "MissingComponent" => Json.oneText? "component" .missingComponent body
    | _ => none

instance : Encode SettingsFault where
  encode
    | .fileNotFound path => .alternative "NotFound" [("path", encode path)]
    | .invalid reason => .alternative "Invalid" [("message", encode reason)]
    | .parse reason => .alternative "ParseError" [("message", encode reason)]
    | .missingField field => .alternative "MissingField" [("field", encode field)]
    | .invalidValue field value =>
      .alternative "InvalidValue" [("field", encode field), ("value", encode value)]
    | .invalidThreshold volume => .alternative "InvalidThreshold" [("volume", encode volume)]

instance : Decode SettingsFault where
  decode? _ j := do
    let (name, body) ← j.alternative?
    match name with
    | "NotFound" => Json.oneText? "path" .fileNotFound body
    | "Invalid" => Json.oneText? "message" .invalid body
    | "ParseError" => Json.oneText? "message" .parse body
    | "MissingField" => Json.oneText? "field" .missingField body
    | "InvalidValue" => Json.twoTexts? "field" "value" .invalidValue body
    | "InvalidThreshold" => Json.oneText? "volume" .invalidThreshold body
    | _ => none

instance : Encode StorageFault where
  encode
    | .io reason => .alternative "IoError" [("message", encode reason)]
    | .volumeQuery path reason =>
      .alternative "VolumeQueryFailed" [("path", encode path), ("message", encode reason)]

instance : Decode StorageFault where
  decode? _ j := do
    let (name, body) ← j.alternative?
    match name with
    | "IoError" => Json.oneText? "message" .io body
    | "VolumeQueryFailed" => Json.twoTexts? "path" "message" .volumeQuery body
    | _ => none

instance : Encode BackendFault where
  encode
    | .unsupported backend operation =>
      .alternative "UnsupportedOperation"
        [("backend", encode backend), ("operation", encode operation)]
    | .commandFailed command status =>
      .alternative "CommandFailed" [("command", encode command), ("status", encode status)]
    | .connection reason => .alternative "ConnectionFailed" [("message", encode reason)]

instance : Decode BackendFault where
  decode? _ j := do
    let (name, body) ← j.alternative?
    match name with
    | "UnsupportedOperation" => Json.twoTexts? "backend" "operation" .unsupported body
    | "CommandFailed" => do
      let r ← Json.body? ["command", "status"] body
      return .commandFailed (← r.required .json "command") (← r.required .json "status")
    | "ConnectionFailed" => Json.oneText? "message" .connection body
    | _ => none

instance : Encode PlatformFault where
  encode
    | .fileSystem operation reason =>
      .alternative "FilesystemOperationFailed"
        [("operation", encode operation), ("message", encode reason)]
    | .process command reason =>
      .alternative "ProcessExecutionFailed"
        [("command", encode command), ("message", encode reason)]
    | .commandNotFound command => .alternative "CommandNotFound" [("command", encode command)]
    | .permission operation reason =>
      .alternative "PermissionDenied" [("operation", encode operation), ("message", encode reason)]

instance : Decode PlatformFault where
  decode? _ j := do
    let (name, body) ← j.alternative?
    match name with
    | "FilesystemOperationFailed" => Json.twoTexts? "operation" "message" .fileSystem body
    | "ProcessExecutionFailed" => Json.twoTexts? "command" "message" .process body
    | "CommandNotFound" => Json.oneText? "command" .commandNotFound body
    | "PermissionDenied" => Json.twoTexts? "operation" "message" .permission body
    | _ => none

instance : Encode Fault where
  encode
    | .session f => .obj [("Session", encode f)]
    | .settings f => .obj [("Config", encode f)]
    | .storage f => .obj [("Storage", encode f)]
    | .backend f => .obj [("Backend", encode f)]
    | .platform f => .obj [("Platform", encode f)]
    | .internal reason => .obj [("Internal", encode reason)]
    | .io kind reason path =>
      .alternative "Io"
        [("kind", .str (Named.name kind)), ("message", encode reason), ("path", encode path)]

instance : Decode Fault where
  decode? d j := do
    let (name, body) ← j.alternative?
    match name with
    | "Session" => body.bind (decode? d) |>.map .session
    | "Config" => body.bind (decode? d) |>.map .settings
    | "Storage" => body.bind (decode? d) |>.map .storage
    | "Backend" => body.bind (decode? d) |>.map .backend
    | "Platform" => body.bind (decode? d) |>.map .platform
    | "Internal" => body.bind (decode? d) |>.map .internal
    | "Io" => do
      let r ← Json.body? ["kind", "message", "path"] body
      let kind ← r.required .json "kind"
      return .io (.ofKnownName kind) (← r.required .json "message") (← r.required .json "path")
    | _ => none

/-- A member that is written only if there is a value. -/
def Json.optionalMember [Encode α] (name : String) : Option α → List (String × Json)
  | some a => [(name, encode a)]
  | none => []

/-- An absent code or hint is left out. -/
instance : Encode Advice where
  encode a := .obj (Json.optionalMember "code" a.code ++ [("message", encode a.message)] ++
    Json.optionalMember "hint" a.hint ++ [("retryable", encode a.retryable)])

instance : Decode Advice where
  decode? d j := do
    let r ← j.record? d ["code", "message", "hint", "retryable"]
    let code ← r.optional d "code"
    let message ← r.required d "message"
    let hint ← r.optional d "hint"
    let retryable ← r.required d "retryable"
    return { code, message, hint, retryable }

end OtaCompile
