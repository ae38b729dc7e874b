import OtaCompile.Naming

/-!
# Compiler filters and the reasons to compile

A filter says how much of a package is compiled; a reason says why it is compiled now, and brings a
filter of its own when nothing overrides it.
-/

namespace OtaCompile.Compiler

inductive Filter
  | verifyNone
  | verifyAtRuntime
  | verifyProfile
  | interpretOnly
  | spaceProfile
  | space
  | speedProfile
  | speed
  | everythingProfile
  | everything
deriving DecidableEq, Repr, Inhabited

namespace Filter

instance : Named Filter where
  all := [verifyNone, verifyAtRuntime, verifyProfile, interpretOnly, spaceProfile, space,
    speedProfile, speed, everythingProfile, everything]
  name
    | verifyNone => "verify-none"
    | verifyAtRuntime => "verify-at-runtime"
    | verifyProfile => "verify-profile"
    | interpretOnly => "interpret-only"
    | spaceProfile => "space-profile"
    | space => "space"
    | speedProfile => "speed-profile"
    | speed => "speed"
    | everythingProfile => "everything-profile"
    | everything => "everything"
  find_name a := by cases a <;> rfl

instance : ToString Filter := ⟨Named.name⟩

/-- Whether the compiler consults recorded profiles. -/
def profileGuided : Filter → Bool
  | verifyProfile | spaceProfile | speedProfile | everythingProfile => true
  | _ => false

end Filter

inductive Reason
  | firstBoot
  | boot
  | install
  | backgroundDexopt
  | abOta
  | nonSystemLibrary
  | sharedApk
  | forcedDexopt
deriving DecidableEq, Repr, Inhabited

namespace Reason

instance : Named Reason where
  all := [firstBoot, boot, install, backgroundDexopt, abOta, nonSystemLibrary, sharedApk,
    forcedDexopt]
  name
    | firstBoot => "first-boot"
    | boot => "boot"
    | install => "install"
    | backgroundDexopt => "bg-dexopt"
    | abOta => "ab-ota"
    | nonSystemLibrary => "nsys-library"
    | sharedApk => "shared-apk"
    | forcedDexopt => "forced-dexopt"
  find_name a := by cases a <;> rfl

instance : ToString Reason := ⟨Named.name⟩

def defaultFilter : Reason → Filter
  | firstBoot | install | forcedDexopt => .interpretOnly
  | boot => .verifyProfile
  | backgroundDexopt | abOta => .speedProfile
  | nonSystemLibrary | sharedApk => .speed

end Reason

end OtaCompile.Compiler
