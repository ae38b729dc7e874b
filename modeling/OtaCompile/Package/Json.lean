import OtaCompile.Package
import OtaCompile.Json.Decode

/-!
# Packages in JSON

All eight fields are written; when read, every field but the name has a value for when it is left
out.
-/

namespace OtaCompile.Package

instance : Encode Package where
  encode p := .obj [
    ("name", encode p.name),
    ("install_dir", encode p.installDir),
    ("code_paths", encode p.codePaths),
    ("instruction_sets", encode p.instructionSets),
    ("shared_libraries", encode p.sharedLibraries),
    ("has_code", encode p.hasCode),
    ("core_app", encode p.coreApp),
    ("uid", encode p.uid)]

def fieldNames : List String :=
  ["name", "install_dir", "code_paths", "instruction_sets", "shared_libraries", "has_code",
    "core_app", "uid"]

instance : Decode Package where
  decode? d j := do
    let r ← j.record? d fieldNames
    let name ← r.required d "name"
    let installDir ← r.withDefault d "install_dir" none
    let codePaths ← r.withDefault d "code_paths" []
    let instructionSets ← r.withDefault d "instruction_sets" []
    let sharedLibraries ← r.withDefault d "shared_libraries" []
    let hasCode ← r.withDefault d "has_code" true
    let coreApp ← r.withDefault d "core_app" false
    let uid ← r.withDefault d "uid" 0
    return { name, installDir, codePaths, instructionSets, sharedLibraries, hasCode, coreApp, uid }

end OtaCompile.Package
