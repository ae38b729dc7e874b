import OtaCompile.Device
import OtaCompile.Package

/-!
# Relocation

A pass over all packages that asks for every artifact staged by an update to be moved into place.
Packages on partitions that never change had theirs placed by the update itself.  A move that fails
is counted and reported; the pass goes on.
-/

namespace OtaCompile

structure Relocator where
  immutablePartitions : List Path
  translation : Translation := ∅
  /-- Assumed of a package that declares no instruction set. -/
  defaultIsa : InstructionSet := .host

namespace Relocator

/-- Ask for one move and count its outcome. -/
def moveOne (p : Package) (dir : Path) (report : RelocationReport) (isa : InstructionSet)
    (codePath : Path) : Procedure RelocationReport := do
  let report := { report with attempted := report.attempted + 1 }
  match ← Dialogue.question (Device.Request.move codePath isa dir) with
  | .ok .moved =>
    Procedure.emit (RelocationEvent.artifactMoved p.name codePath isa)
    return { report with moved := report.moved + 1 }
  | .ok .notStaged => return { report with notStaged := report.notStaged + 1 }
  | .error f =>
    Procedure.emit (RelocationEvent.artifactMoveFailed p.name codePath isa f.message)
    return { report with failed := report.failed + 1 }

/-- One package: code paths within instruction sets. -/
def movePackage (r : Relocator) (p : Package) (dir : Path) (report : RelocationReport) :
    Procedure RelocationReport :=
  (r.translation.dexCode (p.instructionSetsOr r.defaultIsa)).foldlM
    (fun report isa => p.codePaths.foldlM (fun report codePath =>
      moveOne p dir report isa codePath) report) report

def relocatePackage (r : Relocator) (report : RelocationReport) (p : Package) :
    Procedure RelocationReport := do
  let report := { report with scanned := report.scanned + 1 }
  if p.canOptimize then
    match p.artifactDir with
    | none =>
      Procedure.emit (RelocationEvent.packageSkipped p.name
        "package has code but no install directory")
      return { report with skipped := report.skipped + 1 }
    | some dir =>
      if p.isUnderAny r.immutablePartitions then
        return { report with skipped := report.skipped + 1 }
      else r.movePackage p dir report
  else return report

def relocate (r : Relocator) (packages : List Package) : Procedure RelocationReport := do
  Procedure.emit (RelocationEvent.started packages.length)
  let report ← packages.foldlM r.relocatePackage {}
  Procedure.emit (RelocationEvent.completed report)
  return report

end Relocator

end OtaCompile
