import OtaCompile.Registry
import OtaCompile.Package.Json

/-!
# Manifests

A manifest is a document with a list of packages under `package`.
-/

namespace OtaCompile.Registry

/-- The packages of a manifest, if it is well formed. -/
def manifestPackages? (read : DocumentReader) (text : String) : Option (List Package) := do
  let j ← read text
  let r ← j.record? .toml ["package"]
  r.withDefault .toml "package" []

def ofManifestText (read : DocumentReader) (text : String) : Except Fault Registry :=
  match manifestPackages? read text with
  | none => .error (SettingsFault.parse "")
  | some packages => ofManifest packages

end OtaCompile.Registry
