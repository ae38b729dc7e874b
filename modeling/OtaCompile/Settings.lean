import OtaCompile.Compiler.Filter
import OtaCompile.InstructionSet
import OtaCompile.Path
import OtaCompile.Fault

/-!
# Settings

What can be configured, with the values that stand when nothing is.
-/

namespace OtaCompile

inductive OutputFormat
  | plain
  | tty
  | json
deriving DecidableEq, Repr

instance : Inhabited OutputFormat := ⟨.tty⟩

instance : Named OutputFormat where
  all := [.plain, .tty, .json]
  name
    | .plain => "plain"
    | .tty => "tty"
    | .json => "json"
  find_name a := by cases a <;> rfl

inductive ColorChoice
  | always
  | auto
  | never
deriving DecidableEq, Repr

instance : Inhabited ColorChoice := ⟨.auto⟩

instance : Named ColorChoice where
  all := [.always, .auto, .never]
  name
    | .always => "always"
    | .auto => "auto"
    | .never => "never"
  find_name a := by cases a <;> rfl

structure Settings where
  output : OutputFormat := default
  color : ColorChoice := default
  /-- Replaces the filter of an A/B update. -/
  compilerFilter : Option Compiler.Filter := none
  /-- Instruction sets compiled for, by instruction set run on; as written, in order of names. -/
  dexCodeIsa : List (String × String) := []
  dataDir : Path := ⟨"/data"⟩
  lowSpacePercent : UInt8 := 10
  lowSpaceMaxBytes : UInt64 := 524288000
  /-- A threshold of its own, whatever the size of the volume. -/
  lowSpaceBytes : Option UInt64 := none
  stagingDir : Option Path := none
  immutablePartitions : Option (List Path) := none
  manifest : Option Path := none
  backendProgram : Option Path := none
deriving DecidableEq, Repr, Inhabited

namespace Settings

def defaultPartitions : List Path := [⟨"/system"⟩, ⟨"/vendor"⟩]

/-- The filter that an A/B update is compiled with. -/
def otaFilter (s : Settings) : Compiler.Filter :=
  s.compilerFilter.getD Compiler.Reason.abOta.defaultFilter

def stagingDirOrDefault (s : Settings) : Path := s.stagingDir.getD ⟨"/data/ota"⟩

def partitionsOrDefault (s : Settings) : List Path := s.immutablePartitions.getD defaultPartitions

def backendProgramOrDefault (s : Settings) : Path := s.backendProgram.getD ⟨"otadex-installd"⟩

def manifestPath (s : Settings) : Except Fault Path :=
  match s.manifest with
  | some path => .ok path
  | none => .error (SettingsFault.missingField "manifest")

/-- Read a name, which must be one of the type's. -/
def named {α : Type} [Named α] (field s : String) : Except Fault α :=
  match Named.ofName? s with
  | some a => .ok a
  | none => .error (SettingsFault.invalidValue field s)

/-- The table of instruction sets, if all its names are known. -/
def translation (s : Settings) : Except Fault Translation :=
  s.dexCodeIsa.foldlM (fun t (native, dex) => do
    let native ← named "instruction_set" native
    let dex ← named "instruction_set" dex
    return t.insert native dex) ∅

def validate (s : Settings) : Except Fault Unit :=
  if s.lowSpacePercent > 100 then
    .error (SettingsFault.invalidValue "storage.low_space_percent" s.lowSpacePercent.toNat.repr)
  else .ok ()

end Settings

end OtaCompile
