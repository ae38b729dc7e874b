import OtaCompile.Invocation
import OtaCompile.Json.Decode

/-!
# Invocations in JSON

Flags are a bare number; the output directory may be null or left out, every other field is needed.
-/

namespace OtaCompile

instance : Encode Compiler.Flags := ⟨fun f => encode f.bits⟩

instance : Decode Compiler.Flags := ⟨fun d j => (decode? d j).map Compiler.Flags.mk⟩

namespace Invocation

instance : Encode Invocation where
  encode i := .obj [
    ("code_path", encode i.codePath),
    ("uid", encode i.uid),
    ("package_name", encode i.packageName),
    ("instruction_set", encode i.instructionSet),
    ("output_dir", encode i.outputDir),
    ("flags", encode i.flags),
    ("compiler_filter", encode i.filter),
    ("shared_libraries", encode i.sharedLibraries)]

def fieldNames : List String :=
  ["code_path", "uid", "package_name", "instruction_set", "output_dir", "flags", "compiler_filter",
    "shared_libraries"]

instance : Decode Invocation where
  decode? d j := do
    let r ← j.record? d fieldNames
    let codePath ← r.required d "code_path"
    let uid ← r.required d "uid"
    let packageName ← r.required d "package_name"
    let instructionSet ← r.required d "instruction_set"
    let outputDir ← r.optional d "output_dir"
    let flags ← r.required d "flags"
    let filter ← r.required d "compiler_filter"
    let sharedLibraries ← r.required d "shared_libraries"
    return { codePath, uid, packageName, instructionSet, outputDir, flags, filter, sharedLibraries }

end Invocation

end OtaCompile
