import OtaCompile.Coordinator
import OtaCompile.Settings

/-!
# Assembling a coordinator

A coordinator needs a registry and a device with storage, a mover of artifacts and a backend; for
everything else there is a default.  What the parts of the device are is left open (`Parts`).
Things are given one after the other (`Given`), in any order.
-/

namespace OtaCompile

/-- What the parts of a device are. -/
structure Parts where
  Storage : Type
  Mover : Type
  Backend : Type
  Lock : Type
  /-- Whoever hears the events. -/
  Sender : Type

variable {P : Parts}

/-- What has been given so far. -/
structure Assembly (P : Parts) where
  registry : Option Registry := none
  policy : Option Policy := none
  storage : Option P.Storage := none
  mover : Option P.Mover := none
  backend : Option P.Backend := none
  installLock : Option P.Lock := none
  dataDir : Option Path := none
  immutablePartitions : Option (List Path) := none
  translation : Translation := ∅
  sender : Option P.Sender := none

/-- One thing that is given. -/
inductive Given (P : Parts)
  | registry (r : Registry)
  | policy (p : Policy)
  | storage (s : P.Storage)
  | mover (m : P.Mover)
  | backend (b : P.Backend)
  /-- The storage, the mover and the backend of a device at once. -/
  | device (s : P.Storage) (m : P.Mover) (b : P.Backend)
  /-- A lock that others take as well. -/
  | installLock (l : P.Lock)
  | dataDir (d : Path)
  | immutablePartitions (ps : List Path)
  | translation (t : Translation)
  | sender (s : P.Sender)
  | settings (s : Settings)

/-- A coordinator that has not started, and the parts of its device. -/
structure Assembled (P : Parts) where
  coordinator : Coordinator
  policy : Policy
  storage : P.Storage
  mover : P.Mover
  backend : P.Backend
  /-- The device has a lock of its own if none was given. -/
  installLock : Option P.Lock
  sender : Option P.Sender

namespace Assembly

/-- The storage, the mover and the backend of a device at once. -/
def withDevice (a : Assembly P) (storage : P.Storage) (mover : P.Mover) (backend : P.Backend) :
    Assembly P :=
  { a with storage := some storage, mover := some mover, backend := some backend }

/-- Settings replace what was given before, except for a policy. -/
def withSettings (a : Assembly P) (s : Settings) : Except Fault (Assembly P) := do
  let translation ← s.translation
  let standard : StandardPolicy := { otaFilter := s.compilerFilter, translation }
  return { a with
    translation
    dataDir := some s.dataDir
    immutablePartitions := some s.partitionsOrDefault
    policy := a.policy.or (some standard.toPolicy) }

/-- Take over one more thing; only settings can be refused. -/
def give (a : Assembly P) : Given P → Except Fault (Assembly P)
  | .registry r => .ok { a with registry := some r }
  | .policy p => .ok { a with policy := some p }
  | .storage s => .ok { a with storage := some s }
  | .mover m => .ok { a with mover := some m }
  | .backend b => .ok { a with backend := some b }
  | .device s m b => .ok (a.withDevice s m b)
  | .installLock l => .ok { a with installLock := some l }
  | .dataDir d => .ok { a with dataDir := some d }
  | .immutablePartitions ps => .ok { a with immutablePartitions := some ps }
  | .translation t => .ok { a with translation := t }
  | .sender s => .ok { a with sender := some s }
  | .settings s => a.withSettings s

def orMissing {α : Type} (component : String) : Option α → Except Fault α
  | some a => .ok a
  | none => .error (SessionFault.missingComponent component)

/-- Put the parts together; the first that is missing is reported. -/
def assemble (a : Assembly P) : Except Fault (Assembled P) := do
  let registry ← orMissing "registry" a.registry
  let storage ← orMissing "storage" a.storage
  let mover ← orMissing "artifacts" a.mover
  let backend ← orMissing "backend" a.backend
  let policy := a.policy.getD { translation := a.translation : StandardPolicy }.toPolicy
  let dataDir := a.dataDir.getD ({} : Settings).dataDir
  let immutablePartitions := a.immutablePartitions.getD Settings.defaultPartitions
  return {
    coordinator := {
      registry
      generator := { guard := { dataDir } }
      relocator := { immutablePartitions, translation := a.translation } }
    policy, storage, mover, backend
    installLock := a.installLock
    sender := a.sender }

/-- Take over all that is given, in order, and put the parts together. -/
def assembleGiven (gs : List (Given P)) : Except Fault (Assembled P) :=
  gs.foldlM give {} >>= assemble

end Assembly

end OtaCompile
