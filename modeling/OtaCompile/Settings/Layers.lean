import OtaCompile.OsText
import OtaCompile.Settings.Json
import OtaCompile.Text.Decimal

/-!
# Layers of settings

Settings come from a document, then from environment variables, then from the command line; a later
layer replaces what it sets and leaves the rest.  Variables are taken in a fixed order, and one that
cannot be read stops the layer, with those before it in force; one that is not text is passed over.
-/

namespace OtaCompile

namespace Settings

/-! ### Documents -/

/-- A document that is malformed or of the wrong types cannot be read, and what is read must be
valid. -/
def ofDocument (read : DocumentReader) (text : String) : Except Fault Settings :=
  let settings? : Option Settings := (read text).bind (decode? .toml)
  match settings? with
  | none => .error (SettingsFault.parse "")
  | some s => s.validate.map fun _ => s

/-! ### Environment -/

/-- A variable and what its value sets. -/
structure Override where
  name : String
  apply : String → Settings → Except Fault Settings

def overrides : List Override := [
  { name := "OTADEX_OUTPUT"
    apply := fun value s => (named "OTADEX_OUTPUT" value).map fun output => { s with output } },
  { name := "OTADEX_DATA_DIR"
    apply := fun value s => .ok { s with dataDir := ⟨value⟩ } },
  { name := "OTADEX_LOW_SPACE_BYTES"
    apply := fun value s =>
      match Text.readWord value with
      | some n => .ok { s with lowSpaceBytes := some n }
      | none => .error (SettingsFault.invalidValue "OTADEX_LOW_SPACE_BYTES" value) },
  { name := "OTADEX_COMPILER_FILTER"
    apply := fun value s =>
      match Named.ofName? value with
      | some filter => .ok { s with compilerFilter := some filter }
      | none => .error (SettingsFault.invalidValue "OTADEX_COMPILER_FILTER" value) }]

/-- Apply overrides in order up to the first that cannot be read. -/
def applyOverrides (env : Environment) : List Override → Settings → Except Fault Unit × Settings
  | [], s => (.ok (), s)
  | o :: os, s =>
    match env.text? o.name with
    | none => applyOverrides env os s
    | some value =>
      match o.apply value s with
      | .ok s => applyOverrides env os s
      | .error f => (.error f, s)

def mergeEnvironment (env : Environment) (s : Settings) : Except Fault Unit × Settings :=
  applyOverrides env overrides s

end Settings

end OtaCompile
