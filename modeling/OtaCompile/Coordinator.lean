import OtaCompile.Generation
import OtaCompile.Registry
import OtaCompile.Relocation
import OtaCompile.Session

/-!
# The coordinator

The coordinator serves one session over a registry of packages.  A package is either turned into
commands, which are handed out one at a time (`next`), or compiled on the device at once
(`nextPackage`).  Both check for free space first, and both tell in events what became of it.  Only
compiling holds the install lock, and only while the policy runs.
-/

namespace OtaCompile

structure Coordinator where
  registry : Registry
  generator : Generator
  relocator : Relocator
  /-- What became of the artifacts that were staged when the coordinator was started. -/
  relocation : RelocationReport := {}

namespace Coordinator

open Procedure

/-! ### Starting and relocating -/

/-- Relocate what an update has staged, before there is any session. -/
def start (c : Coordinator) : Procedure Coordinator := do
  let relocation ← c.relocator.relocate c.registry.all
  return { c with relocation }

/-- Relocate again, which no session may overlap. -/
def relocate (c : Coordinator) (s : Session) : Procedure (Except Fault RelocationReport) :=
  match s with
  | .idle => .ok <$> c.relocator.relocate c.registry.all
  | .prepared _ => return .error SessionFault.relocationDuringSession

/-! ### Beginning and ending a session -/

def prepare (c : Coordinator) (s : Session) : Procedure (Except Fault Unit × Session) := do
  match ← s.prepare (pure c.registry.forDexopt) with
  | (.error f, s) => return (.error f, s)
  | (.ok total, s) =>
    emit (SessionEvent.prepared total)
    return (.ok (), s)

def cleanup (s : Session) : Procedure Session := do
  emit SessionEvent.cleanedUp
  return s.cleanup

/-- Tell that no package and no command is left, if so. -/
def emitIfExhausted (s : Session) : Procedure Unit :=
  if s.lifecycle = .exhausted then emit (SessionEvent.exhausted s.total) else return

/-! ### Handing out commands -/

/-- What became of a package whose commands were asked for. -/
def recordEvent (p : Package) (commands : List Command) : Generation → PackageEvent
  | .generated => .commandsGenerated p.name commands.length
  | .lowSpace usable threshold => .skipped p.name (.lowSpace usable threshold)
  | .policyFailed f => .skipped p.name (.policyFailed f.message)

/-- The commands of a package with `remaining` packages behind it. -/
def recordPackage (c : Coordinator) (p : Package) (remaining : Nat) :
    Procedure (Except Fault (List Command)) := do
  emit (PackageEvent.processing p.name .export remaining)
  match ← c.generator.record p with
  | .error f => return .error f
  | .ok (outcome, commands) =>
    emit (recordEvent p commands outcome)
    return .ok commands

/-- The next command of a session. -/
def next (c : Coordinator) (s : Session) : Procedure s.Served := do
  let served ← s.next c.recordPackage
  match served.result with
  | .error (.session (.invariantViolation package)) =>
    emit (SessionEvent.invariantViolated package)
  | .ok _ => if s.lifecycle = .active then emitIfExhausted served.after
  | .error _ => pure ()
  return served

/-! ### Compiling on the device -/

/-- What became of a package that was compiled on the device. -/
def compileEvent (p : Package) : Generation → PackageEvent
  | .generated => .compiled p.name
  | .lowSpace usable threshold => .skipped p.name (.lowSpace usable threshold)
  | .policyFailed f => .failed p.name f.advice

/-- Check for free space, then run the policy under the install lock. -/
def compile (c : Coordinator) (p : Package) : Procedure (Except Fault Generation) := do
  match ← c.generator.checkSpace with
  | .error f => return .error f
  | .ok (some low) => return .ok low
  | .ok none => return .ok (← locked (runPolicy p))

/-- Compile the next package; if there is none, do nothing. -/
def nextPackage (c : Coordinator) (s : Session) : Procedure (Except Fault Unit × Session) :=
  match s.pop "dexopt_next_package" with
  | .error f => return (.error f, s)
  | .ok (none, s) => return (.ok (), s)
  | .ok (some p, s) => do
    emit (PackageEvent.processing p.name .direct s.remaining)
    match ← c.compile p with
    | .error f => return (.error f, s)
    | .ok outcome =>
      emit (compileEvent p outcome)
      emitIfExhausted s
      return (.ok (), s)

end Coordinator

end OtaCompile
