import OtaCompile.Settings
import OtaCompile.Json.Decode

/-!
# Settings as a document

Settings are written in four sections.  A section or a setting that is left out has its default,
but a section of paths that is written as an array has them all.
-/

namespace OtaCompile.Settings

/-- Entries of a table of texts, in order of their names. -/
def sortedEntries (entries : List (String × String)) : List (String × String) :=
  entries.mergeSort fun a b => a.1 ≤ b.1

def decodeEntries? (d : Dialect) : Json → Option (List (String × String))
  | .obj ms => do
    let entries ← ms.mapM fun (name, j) => do
      let value ← decode? d j
      return (name, value)
    return sortedEntries entries
  | _ => none

/-- A section, which is empty if it is left out. -/
def section? (d : Dialect) (doc : Record) (name : String) (fields : List String) : Option Record :=
  Json.record? d fields ((doc.field? name).getD (.obj []))

def decodeDocument? (d : Dialect) (j : Json) : Option Settings := do
  let doc ← j.record? d ["general", "dexopt", "storage", "paths"]
  let general ← section? d doc "general" ["default_output", "color"]
  let output ← general.withDefault d "default_output" default
  let color ← general.withDefault d "color" default
  let dexopt ← section? d doc "dexopt" ["compiler_filter", "dex_code_isa"]
  let compilerFilter ← dexopt.withDefault d "compiler_filter" none
  let dexCodeIsa ← decodeEntries? d ((dexopt.field? "dex_code_isa").getD (.obj []))
  let storage ← section? d doc "storage"
    ["data_dir", "low_space_percent", "low_space_max_bytes", "low_space_bytes"]
  let dataDir ← storage.withDefault d "data_dir" ({} : Settings).dataDir
  let lowSpacePercent ← storage.withDefault d "low_space_percent" ({} : Settings).lowSpacePercent
  let lowSpaceMaxBytes ←
    storage.withDefault d "low_space_max_bytes" ({} : Settings).lowSpaceMaxBytes
  let lowSpaceBytes ← storage.withDefault d "low_space_bytes" none
  let paths ← section? d doc "paths"
    ["staging_dir", "immutable_partitions", "manifest", "backend_program"]
  let stagingDir ← paths.optional d "staging_dir"
  let immutablePartitions ← paths.optional d "immutable_partitions"
  let manifest ← paths.optional d "manifest"
  let backendProgram ← paths.optional d "backend_program"
  return {
    output, color, compilerFilter, dexCodeIsa, dataDir, lowSpacePercent, lowSpaceMaxBytes,
    lowSpaceBytes, stagingDir, immutablePartitions, manifest, backendProgram }

instance : Decode Settings := ⟨decodeDocument?⟩

instance : Encode Settings where
  encode s := .obj [
    ("general", .obj [
      ("default_output", encode s.output),
      ("color", encode s.color)]),
    ("dexopt", .obj [
      ("compiler_filter", encode s.compilerFilter),
      ("dex_code_isa", .obj (s.dexCodeIsa.map fun (native, dex) => (native, .str dex)))]),
    ("storage", .obj [
      ("data_dir", encode s.dataDir),
      ("low_space_percent", encode s.lowSpacePercent),
      ("low_space_max_bytes", encode s.lowSpaceMaxBytes),
      ("low_space_bytes", encode s.lowSpaceBytes)]),
    ("paths", .obj [
      ("staging_dir", encode s.stagingDir),
      ("immutable_partitions", encode s.immutablePartitions),
      ("manifest", encode s.manifest),
      ("backend_program", encode s.backendProgram)])]

end OtaCompile.Settings
