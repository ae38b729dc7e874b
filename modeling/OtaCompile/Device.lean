import OtaCompile.Event
import OtaCompile.Policy

/-!
# The device

Everything the coordinator asks of the device it runs on: free space on a volume, moves of staged
artifacts, the policy, the compiler backend, and the lock that keeps installations away while it
compiles.  Reports of events go the same way, so that one list of requests tells a whole run in
order.
-/

namespace OtaCompile

/-- What came of a request to move artifacts. -/
inductive MoveOutcome
  | moved
  | notStaged
deriving DecidableEq, Repr, Inhabited

namespace Device

inductive Request
  /-- The free space below which a volume is low. -/
  | threshold (volume : Path)
  /-- The free space on a volume. -/
  | usable (volume : Path)
  | move (codePath : Path) (isa : InstructionSet) (dir : Path)
  | policy (q : Policy.Request)
  | backend (q : Backend.Request)
  | lock
  | unlock
  | report (e : Event)
deriving DecidableEq, Repr

@[reducible] def Reply : Request → Type
  | .threshold _ | .usable _ => Except PlatformFault UInt64
  | .move _ _ _ => Except PlatformFault MoveOutcome
  | .policy q => Policy.Reply q
  | .backend q => Backend.Reply q
  | .lock | .unlock | .report _ => Unit

end Device

/-- A program that runs on a device. -/
abbrev Procedure := Dialogue Device.Reply

namespace Procedure

variable {α : Type}

def emit (e : Event) : Procedure Unit := .question (Device.Request.report e)

/-- Talk to the device's backend. -/
def onBackend (t : Backend.Talk α) : Procedure α :=
  t.through fun q => .question (Device.Request.backend q)

/-- Hold the install lock meanwhile. -/
def locked (p : Procedure α) : Procedure α := do
  Dialogue.question Device.Request.lock
  let a ← p
  Dialogue.question Device.Request.unlock
  return a

end Procedure

end OtaCompile
