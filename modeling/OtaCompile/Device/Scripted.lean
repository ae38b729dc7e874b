import OtaCompile.Device

/-!
# Scripted devices

A device that answers from scripts and keeps a log of what it was asked.  Each part has a script of
its own, and every request is logged with whether the install lock was held.
-/

namespace OtaCompile

/-- Answers given one after the other; the last is given for ever. -/
structure Script (α : Type) where
  now : α
  later : List α
deriving Repr

namespace Script

variable {α : Type}

/-- A script of the given answers, or of `fallback` alone if there are none. -/
def ofList (fallback : α) : List α → Script α
  | [] => ⟨fallback, []⟩
  | a :: as => ⟨a, as⟩

/-- The script behind the next answer. -/
def tail (s : Script α) : Script α :=
  match s.later with
  | [] => s
  | a :: later => ⟨a, later⟩

/-- The answer after `n` others. -/
def answer (s : Script α) (n : Nat) : α := (Nat.repeat tail n s).now

@[simp] theorem answer_zero (s : Script α) : s.answer 0 = s.now := rfl

end Script

namespace Device

/-- How a scripted device answers for its backend. -/
inductive ScriptedBackend
  /-- Grants with the bool, or refuses. -/
  | script (s : Script (Except BackendFault Bool))
  | recording (taken : List Command)

/-- A request and whether the install lock was held. -/
structure Logged where
  request : Request
  locked : Bool
deriving DecidableEq, Repr

structure Scripted where
  threshold : Script (Except PlatformFault UInt64) := ⟨.ok 100, []⟩
  usable : Script (Except PlatformFault UInt64) := ⟨.ok 1000, []⟩
  moves : Script (Except PlatformFault MoveOutcome) := ⟨.ok .notStaged, []⟩
  policy : Policy := ({} : StandardPolicy).toPolicy
  backend : ScriptedBackend := .script ⟨.ok true, []⟩
  locked : Bool := false
  log : List Logged := []

namespace Scripted

/-- The reply that a scripted answer means for a request. -/
def backendReply (q : Backend.Request) : Except BackendFault Bool → Backend.Reply q
  | .ok yes => Backend.grant yes q
  | .error f => Backend.refuse f q

def backendAnswer (q : Backend.Request) : ScriptedBackend → Backend.Reply q × ScriptedBackend
  | .script s => (backendReply q s.now, .script s.tail)
  | .recording taken => ((Backend.record q taken).1, .recording (Backend.record q taken).2)

/-- The answer to a request, and the device with the script of that part advanced. -/
def reply : (q : Request) → Scripted → Reply q × Scripted
  | .threshold _, d => (d.threshold.now, { d with threshold := d.threshold.tail })
  | .usable _, d => (d.usable.now, { d with usable := d.usable.tail })
  | .move _ _ _, d => (d.moves.now, { d with moves := d.moves.tail })
  | .policy q, d => (d.policy.answer q, d)
  | .backend q, d =>
    ((backendAnswer q d.backend).1, { d with backend := (backendAnswer q d.backend).2 })
  | .lock, d => ((), { d with locked := true })
  | .unlock, d => ((), { d with locked := false })
  | .report _, d => ((), d)

def answer (q : Request) (d : Scripted) : Reply q × Scripted :=
  reply q { d with log := d.log ++ [⟨q, d.locked⟩] }

/-- The value of a procedure and the device it leaves behind. -/
def run {α : Type} (p : Procedure α) (d : Scripted) : α × Scripted := Dialogue.run answer p d

/-- The log since it was last taken, and the device with an empty log. -/
def takeLog (d : Scripted) : List Logged × Scripted := (d.log, { d with log := [] })

end Scripted

end Device

end OtaCompile
