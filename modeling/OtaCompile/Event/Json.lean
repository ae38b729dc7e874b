import OtaCompile.Event
import OtaCompile.Fault.Json

/-!
# Reports and events in JSON

An event is a domain with an event of that domain; inside, `type` names the event next to its
fields, and `kind` the reason for skipping a package.
-/

namespace OtaCompile

variable {α : Type}

/-- One alternative with its name inside, under `tag`. -/
def Json.taggedAlternative (tag name : String) (fields : List (String × Json)) : Json :=
  .obj ((tag, .str name) :: fields)

instance : Encode RelocationReport where
  encode r := .obj [
    ("packages_scanned", encode r.scanned),
    ("packages_skipped", encode r.skipped),
    ("attempted", encode r.attempted),
    ("moved", encode r.moved),
    ("not_staged", encode r.notStaged),
    ("failed", encode r.failed)]

instance : Decode RelocationReport where
  decode? d j := do
    let r ← j.record? d
      ["packages_scanned", "packages_skipped", "attempted", "moved", "not_staged", "failed"]
    let scanned ← r.required d "packages_scanned"
    let skipped ← r.required d "packages_skipped"
    let attempted ← r.required d "attempted"
    let moved ← r.required d "moved"
    let notStaged ← r.required d "not_staged"
    let failed ← r.required d "failed"
    return { scanned, skipped, attempted, moved, notStaged, failed }

instance : Encode RunReport where
  encode r := .obj [
    ("mode", encode r.mode),
    ("total_packages", encode r.totalPackages),
    ("commands", encode r.commands),
    ("duration_ms", encode r.durationMs)]

instance : Encode SessionEvent where
  encode
    | .prepared n => .taggedAlternative "type" "Prepared" [("total_packages", encode n)]
    | .cleanedUp => .taggedAlternative "type" "CleanedUp" []
    | .exhausted n => .taggedAlternative "type" "Exhausted" [("total_packages", encode n)]
    | .invariantViolated p => .taggedAlternative "type" "InvariantViolated" [("package", encode p)]

instance : Decode SessionEvent where
  decode? d j := do
    let (name, body) ← j.taggedAlternative? d "type"
      ["Prepared", "CleanedUp", "Exhausted", "InvariantViolated"]
    match name with
    | "Prepared" => do
      let r ← body.record? .tagged ["total_packages"]
      return .prepared (← r.required .tagged "total_packages")
    | "CleanedUp" => do
      let _ ← body.record? .tagged []
      return .cleanedUp
    | "Exhausted" => do
      let r ← body.record? .tagged ["total_packages"]
      return .exhausted (← r.required .tagged "total_packages")
    | "InvariantViolated" => do
      let r ← body.record? .tagged ["package"]
      return .invariantViolated (← r.required .tagged "package")
    | _ => none

instance : Encode SkipReason where
  encode
    | .lowSpace usable threshold =>
      .taggedAlternative "kind" "low_space"
        [("usable_bytes", encode usable), ("threshold_bytes", encode threshold)]
    | .policyFailed message =>
      .taggedAlternative "kind" "policy_failed" [("message", encode message)]

instance : Decode SkipReason where
  decode? d j := do
    let (name, body) ← j.taggedAlternative? d "kind" ["low_space", "policy_failed"]
    match name with
    | "low_space" => do
      let r ← body.record? .tagged ["usable_bytes", "threshold_bytes"]
      return .lowSpace (← r.required .tagged "usable_bytes")
        (← r.required .tagged "threshold_bytes")
    | "policy_failed" => do
      let r ← body.record? .tagged ["message"]
      return .policyFailed (← r.required .tagged "message")
    | _ => none

instance : Encode PackageEvent where
  encode
    | .processing p mode remaining =>
      .taggedAlternative "type" "Processing"
        [("package", encode p), ("mode", encode mode), ("remaining", encode remaining)]
    | .commandsGenerated p commands =>
      .taggedAlternative "type" "CommandsGenerated"
        [("package", encode p), ("commands", encode commands)]
    | .compiled p => .taggedAlternative "type" "Compiled" [("package", encode p)]
    | .skipped p reason =>
      .taggedAlternative "type" "Skipped" [("package", encode p), ("reason", encode reason)]
    | .failed p failure =>
      .taggedAlternative "type" "Failed" [("package", encode p), ("failure", encode failure)]

instance : Decode PackageEvent where
  decode? d j := do
    let (name, body) ← j.taggedAlternative? d "type"
      ["Processing", "CommandsGenerated", "Compiled", "Skipped", "Failed"]
    match name with
    | "Processing" => do
      let r ← body.record? .tagged ["package", "mode", "remaining"]
      return .processing (← r.required .tagged "package") (← r.required .tagged "mode")
        (← r.required .tagged "remaining")
    | "CommandsGenerated" => do
      let r ← body.record? .tagged ["package", "commands"]
      return .commandsGenerated (← r.required .tagged "package") (← r.required .tagged "commands")
    | "Compiled" => do
      let r ← body.record? .tagged ["package"]
      return .compiled (← r.required .tagged "package")
    | "Skipped" => do
      let r ← body.record? .tagged ["package", "reason"]
      return .skipped (← r.required .tagged "package") (← r.required .tagged "reason")
    | "Failed" => do
      let r ← body.record? .tagged ["package", "failure"]
      return .failed (← r.required .tagged "package") (← r.required .tagged "failure")
    | _ => none

instance : Encode RelocationEvent where
  encode
    | .started packages =>
      .taggedAlternative "type" "Started" [("packages", encode packages)]
    | .packageSkipped p reason =>
      .taggedAlternative "type" "PackageSkipped" [("package", encode p), ("reason", encode reason)]
    | .artifactMoved p codePath isa =>
      .taggedAlternative "type" "ArtifactMoved"
        [("package", encode p), ("code_path", encode codePath), ("instruction_set", encode isa)]
    | .artifactMoveFailed p codePath isa message =>
      .taggedAlternative "type" "ArtifactMoveFailed"
        [("package", encode p), ("code_path", encode codePath), ("instruction_set", encode isa),
          ("message", encode message)]
    | .completed report => .taggedAlternative "type" "Completed" [("report", encode report)]

instance : Decode RelocationEvent where
  decode? d j := do
    let (name, body) ← j.taggedAlternative? d "type"
      ["Started", "PackageSkipped", "ArtifactMoved", "ArtifactMoveFailed", "Completed"]
    match name with
    | "Started" => do
      let r ← body.record? .tagged ["packages"]
      return .started (← r.required .tagged "packages")
    | "PackageSkipped" => do
      let r ← body.record? .tagged ["package", "reason"]
      return .packageSkipped (← r.required .tagged "package") (← r.required .tagged "reason")
    | "ArtifactMoved" => do
      let r ← body.record? .tagged ["package", "code_path", "instruction_set"]
      return .artifactMoved (← r.required .tagged "package") (← r.required .tagged "code_path")
        (← r.required .tagged "instruction_set")
    | "ArtifactMoveFailed" => do
      let r ← body.record? .tagged ["package", "code_path", "instruction_set", "message"]
      return .artifactMoveFailed (← r.required .tagged "package")
        (← r.required .tagged "code_path") (← r.required .tagged "instruction_set")
        (← r.required .tagged "message")
    | "Completed" => do
      let r ← body.record? .tagged ["report"]
      return .completed (← r.required .tagged "report")
    | _ => none

namespace Event

instance : Encode Event where
  encode e := .obj [("domain", encode e.domain), ("event", match e with
    | .session e => encode e
    | .package e => encode e
    | .relocation e => encode e)]

/-- The domain of a written event; in an array it stands there by its bare name. -/
def domain? (d : Dialect) (r : Record) : Option Domain :=
  if r.positional then (r.required d "domain").bind Named.ofName? else r.required d "domain"

instance : Decode Event where
  decode? d j := do
    let r ← j.record? d ["domain", "event"]
    match ← domain? d r with
    | .session => (r.required d "event").map .session
    | .package => (r.required d "event").map .package
    | .relocation => (r.required d "event").map .relocation

end Event

end OtaCompile
