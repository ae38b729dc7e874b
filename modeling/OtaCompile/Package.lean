import OtaCompile.Path
import OtaCompile.InstructionSet

/-!
# Installed packages

What is known of one installed package, and where its compiled artifacts live.
-/

namespace OtaCompile

structure Package where
  name : String
  /-- The directory the package was installed into, when known. -/
  installDir : Option Path := none
  /-- The base code path first, then the splits. -/
  codePaths : List Path := []
  instructionSets : List InstructionSet := []
  sharedLibraries : List Path := []
  hasCode : Bool := true
  /-- Core packages come before all others. -/
  coreApp : Bool := false
  uid : UInt32 := 0
deriving DecidableEq, Repr, Inhabited

namespace Package

/-- A package with one code path, installed into that path's parent. -/
def ofCodePath (name : String) (codePath : Path) : Package :=
  { name, installDir := codePath.parent, codePaths := [codePath] }

/-- A missing install directory becomes the parent of the base code path. -/
def withDefaultInstallDir (p : Package) : Package :=
  { p with installDir := p.installDir.or (p.codePaths.head?.bind Path.parent) }

/-- Whether there is anything to compile. -/
def canOptimize (p : Package) : Bool := p.hasCode && !p.codePaths.isEmpty

/-- The declared instruction sets, or only `fallback` if none is declared. -/
def instructionSetsOr (p : Package) (fallback : InstructionSet) : List InstructionSet :=
  if p.instructionSets.isEmpty then [fallback] else p.instructionSets

def artifactDir (p : Package) : Option Path := p.installDir.map (·.join ⟨"oat"⟩)

/-- Whether the package is installed below one of the given roots. -/
def isUnderAny (p : Package) (roots : List Path) : Bool :=
  match p.installDir with
  | some dir => roots.any fun root => dir.startsWith root
  | none => false

@[simp] theorem withDefaultInstallDir_idem (p : Package) :
    p.withDefaultInstallDir.withDefaultInstallDir = p.withDefaultInstallDir := by
  cases h : p.installDir <;> cases h' : p.codePaths.head?.bind Path.parent <;>
    simp [withDefaultInstallDir, h, h']

@[simp] theorem canOptimize_withDefaultInstallDir (p : Package) :
    p.withDefaultInstallDir.canOptimize = p.canOptimize := rfl

end Package

end OtaCompile
