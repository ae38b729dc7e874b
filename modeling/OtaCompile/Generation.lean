import OtaCompile.SpaceGuard

/-!
# Generating one package

Check for space, and only then ask the policy what the package needs.  `record` keeps the commands
of a package that went through, and of no other.
-/

namespace OtaCompile

/-- The options that every package of an update is compiled with. -/
def CompileOptions.ota (filter : Compiler.Filter) : CompileOptions where
  reason := .abOta
  filter
  extraFlags := .ota

/-- What happened when a package was generated. -/
inductive Generation
  | generated
  /-- The volume was low, and the policy did not run. -/
  | lowSpace (usable threshold : UInt64)
  | policyFailed (f : Fault)
deriving DecidableEq, Repr

namespace Generation

def ofPolicyResult : PolicyResult → Generation
  | .performed | .skipped => generated
  | .failed f => policyFailed f

/-- What a plan comes to with a recording backend, and the commands that are kept. -/
def recorded (plan : Policy.Plan) : Generation × List Command :=
  let (result, commands) := Backend.recorded plan
  match ofPolicyResult result with
  | generated => (generated, commands)
  | other => (other, [])

end Generation

namespace Procedure

/-- The policy chooses the filter of an update. -/
def otaOptions : Procedure CompileOptions :=
  CompileOptions.ota <$> Dialogue.question (Device.Request.policy (.filterFor .abOta))

/-- Ask the policy what it is going to do about a package of an update. -/
def planFor (p : Package) : Procedure Policy.Plan := do
  let options ← otaOptions
  Dialogue.question (Device.Request.policy (.perform p options))

/-- Run the policy on the device's backend. -/
def runPolicy (p : Package) : Procedure Generation := do
  let plan ← planFor p
  Generation.ofPolicyResult <$> onBackend plan

end Procedure

structure Generator where
  guard : SpaceGuard
deriving DecidableEq, Repr, Inhabited

namespace Generator

/-- What a low volume makes of a package, if it is low. -/
def checkSpace (g : Generator) : Procedure (Except Fault (Option Generation)) := do
  match ← g.guard.check with
  | .error f => return .error f
  | .ok (.low usable threshold) => return .ok (some (.lowSpace usable threshold))
  | .ok (.sufficient _ _) => return .ok none

/-- Check for space, then run the policy on the device's backend. -/
def generate (g : Generator) (p : Package) : Procedure (Except Fault Generation) := do
  match ← g.checkSpace with
  | .error f => return .error f
  | .ok (some low) => return .ok low
  | .ok none => return .ok (← Procedure.runPolicy p)

/-- Check for space, then take down what the policy asks for. -/
def record (g : Generator) (p : Package) :
    Procedure (Except Fault (Generation × List Command)) := do
  match ← g.checkSpace with
  | .error f => return .error f
  | .ok (some low) => return .ok (low, [])
  | .ok none => return .ok (Generation.recorded (← Procedure.planFor p))

end Generator

end OtaCompile
