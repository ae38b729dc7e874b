import OtaCompile.Host
import OtaCompile.Registry.Manifest
import OtaCompile.Settings.Layers

/-!
# Documents on the host

Settings and manifests are read from files, by a reader of documents.  Settings that cannot be read
are reported as missing, whatever the reason; for a manifest the reason is told.
-/

namespace OtaCompile.Host

/-- The settings in a file. -/
def loadSettings (read : DocumentReader) (path : Path) : Job (Except Fault Settings) := do
  match ← Dialogue.question (Request.readText path) with
  | .error _ => return .error (SettingsFault.fileNotFound path.text)
  | .ok text => return Settings.ofDocument read text

/-- A user's own directory: the one that the environment names, or else the account's. -/
def userHome (env : Environment) : Job (Option Path) :=
  match (env.path? "HOME").filter (·.text ≠ "") with
  | none => .question Request.accountHome
  | some home => return some home

/-- The directory in which a user keeps settings. -/
def settingsHome (env : Environment) : Job (Option Path) := do
  match (env.path? "XDG_CONFIG_HOME").filter Path.isAbsolute with
  | some dir => return some dir
  | none => return (← userHome env).map fun home => home.join ⟨".config"⟩

/-- The file for settings in such a directory. -/
def settingsFile (home : Path) : Path := (home.join ⟨"otadex"⟩).join ⟨"config.toml"⟩

/-- The user's settings, or those that stand when there are none. -/
def loadUserSettings (read : DocumentReader) (env : Environment) :
    Job (Except Fault Settings) := do
  match ← settingsHome env with
  | none => return .error (SettingsFault.fileNotFound "config directory")
  | some home =>
    if ← Dialogue.question (Request.isPresent (settingsFile home)) then
      loadSettings read (settingsFile home)
    else return .ok {}

def loadSettingsOr (read : DocumentReader) (env : Environment) :
    Option Path → Job (Except Fault Settings)
  | some path => loadSettings read path
  | none => loadUserSettings read env

def loadManifest (read : DocumentReader) (path : Path) : Job (Except Fault Registry) := do
  match ← Dialogue.question (Request.readText path) with
  | .error f => return .error (f.toFault path)
  | .ok text => return Registry.ofManifestText read text

end OtaCompile.Host
