import OtaCompile.Host.Helper
import OtaCompile.Host.Staging
import OtaCompile.Host.Volume

/-!
# The host as a device

A device whose storage is the host's volumes, whose artifacts are files, and whose backend is a
helper program; its policy remembers nothing.  Nothing else on the host takes the install lock.
-/

namespace OtaCompile.Host

structure DeviceParts where
  limit : SpaceLimit
  /-- The root of the tree in which an update stages artifacts. -/
  staging : Path
  /-- The program that compiles. -/
  helper : Path
  policy : Policy

/-- The host's answer to a request of the coordinator; `tell` passes events on. -/
def deviceAnswer (parts : DeviceParts) (tell : Event → Job Unit) :
    (q : Device.Request) → Job (Device.Reply q)
  | .threshold volume => parts.limit.threshold volume
  | .usable volume => usableSpace volume
  | .move codePath isa dir => moveArtifacts parts.staging codePath isa dir
  | .policy q => return parts.policy.answer q
  | .backend q => helperAnswer parts.helper q
  | .lock | .unlock => return
  | .report e => tell e

/-- Run a procedure on the host. -/
def perform {α : Type} (parts : DeviceParts) (tell : Event → Job Unit) (p : Procedure α) : Job α :=
  p.through (deviceAnswer parts tell)

end OtaCompile.Host
