import OtaCompile.Device

/-!
# The check for free space

Nothing is compiled while the data volume is low on space.
-/

namespace OtaCompile

inductive SpaceCheck
  | sufficient (usable threshold : UInt64)
  | low (usable threshold : UInt64)
deriving DecidableEq, Repr

namespace SpaceCheck

def ofBytes (usable threshold : UInt64) : SpaceCheck :=
  if usable < threshold then low usable threshold else sufficient usable threshold

def isSufficient : SpaceCheck → Bool
  | sufficient _ _ => true
  | low _ _ => false

def usable : SpaceCheck → UInt64
  | sufficient u _ | low u _ => u

def threshold : SpaceCheck → UInt64
  | sufficient _ t | low _ t => t

end SpaceCheck

/-- The volume whose free space is checked. -/
structure SpaceGuard where
  dataDir : Path
deriving DecidableEq, Repr, Inhabited

namespace SpaceGuard

/-- A threshold that cannot be had is a fault, and so is one of zero, which no volume could miss.
Free space that cannot be had counts as none. -/
def check (g : SpaceGuard) : Procedure (Except Fault SpaceCheck) := do
  match ← Dialogue.question (Device.Request.threshold g.dataDir) with
  | .error f => return .error (StorageFault.volumeQuery g.dataDir.text f.message)
  | .ok threshold =>
    if threshold = 0 then return .error (SettingsFault.invalidThreshold g.dataDir.text)
    match ← Dialogue.question (Device.Request.usable g.dataDir) with
    | .error _ => return .ok (.ofBytes 0 threshold)
    | .ok usable => return .ok (.ofBytes usable threshold)

end SpaceGuard

end OtaCompile
