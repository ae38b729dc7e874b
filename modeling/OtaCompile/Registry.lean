import OtaCompile.Package
import OtaCompile.Fault

/-!
# The registry of packages

The packages a device has, and those of them to compile, in the order in which to compile them.
`ofManifest?` makes a registry of a list of packages with different names: what can be compiled
comes in manifest order, core packages first.
-/

namespace OtaCompile

structure Registry where
  all : List Package
  forDexopt : List Package
deriving DecidableEq, Repr, Inhabited

namespace Registry

/-- A registry that has every package compiled, in the order given. -/
def ofList (packages : List Package) : Registry := ⟨packages, packages⟩

/-- The first package whose name an earlier package has. -/
def firstRepeated? (seen : List String) : List Package → Option Package
  | [] => none
  | p :: ps => if p.name ∈ seen then some p else firstRepeated? (p.name :: seen) ps

/-- What can be compiled, core packages first. -/
def compileOrder (packages : List Package) : List Package :=
  let optimizable := packages.filter Package.canOptimize
  optimizable.filter (·.coreApp) ++ optimizable.filter (! ·.coreApp)

def ofManifest (packages : List Package) : Except Fault Registry :=
  match firstRepeated? [] packages with
  | some p => .error (SettingsFault.invalid ("duplicate package " ++ p.name))
  | none =>
    let all := packages.map Package.withDefaultInstallDir
    .ok ⟨all, compileOrder all⟩

end Registry

end OtaCompile
