import OtaCompile.Report
import OtaCompile.Path
import OtaCompile.InstructionSet
import OtaCompile.Fault.Advice

/-!
# Events

What the coordinator reports while it works, by domain, and how loud each event is.
-/

namespace OtaCompile

inductive SessionEvent
  | prepared (totalPackages : Nat)
  | cleanedUp
  | exhausted (totalPackages : Nat)
  | invariantViolated (package : String)
deriving DecidableEq, Repr

/-- Why a package produced no work. -/
inductive SkipReason
  | lowSpace (usable threshold : UInt64)
  | policyFailed (message : String)
deriving DecidableEq, Repr

inductive PackageEvent
  | processing (package : String) (mode : Mode) (remaining : Nat)
  | commandsGenerated (package : String) (commands : Nat)
  | compiled (package : String)
  | skipped (package : String) (reason : SkipReason)
  | failed (package : String) (failure : Advice)
deriving DecidableEq, Repr

inductive RelocationEvent
  | started (packages : Nat)
  | packageSkipped (package reason : String)
  | artifactMoved (package : String) (codePath : Path) (isa : InstructionSet)
  | artifactMoveFailed (package : String) (codePath : Path) (isa : InstructionSet)
      (message : String)
  | completed (report : RelocationReport)
deriving DecidableEq, Repr

inductive Event
  | session (e : SessionEvent)
  | package (e : PackageEvent)
  | relocation (e : RelocationEvent)
deriving DecidableEq, Repr

/-- Which part of the work an event is about. -/
inductive Domain
  | session
  | package
  | relocation
deriving DecidableEq, Repr, Inhabited

instance : Named Domain where
  all := [.session, .package, .relocation]
  name
    | .session => "session"
    | .package => "package"
    | .relocation => "relocation"
  find_name a := by cases a <;> rfl

inductive Level
  | debug
  | info
  | warn
  | error
deriving DecidableEq, Repr, Inhabited

instance : Named Level where
  all := [.debug, .info, .warn, .error]
  name
    | .debug => "debug"
    | .info => "info"
    | .warn => "warn"
    | .error => "error"
  find_name a := by cases a <;> rfl

/-- Whether a user sees the event, not only the log. -/
def Level.isVisible : Level → Bool
  | .warn | .error => true
  | _ => false

namespace Event

instance : Coe SessionEvent Event := ⟨.session⟩
instance : Coe PackageEvent Event := ⟨.package⟩
instance : Coe RelocationEvent Event := ⟨.relocation⟩

def domain : Event → Domain
  | session _ => .session
  | package _ => .package
  | relocation _ => .relocation

def level : Event → Level
  | session (.invariantViolated _) | package (.failed _ _) => .error
  | package (.skipped _ _) | relocation (.packageSkipped _ _)
  | relocation (.artifactMoveFailed _ _ _ _) => .warn
  | session .cleanedUp | package (.processing _ _ _) | package (.commandsGenerated _ _)
  | relocation (.started _) | relocation (.artifactMoved _ _ _) => .debug
  | session (.prepared _) | session (.exhausted _) | package (.compiled _)
  | relocation (.completed _) => .info

/-- The package an event is about, if it is about one. -/
def package? : Event → Option String
  | session (.invariantViolated p) | package (.processing p _ _) | package (.commandsGenerated p _)
  | package (.compiled p) | package (.skipped p _) | package (.failed p _)
  | relocation (.packageSkipped p _) | relocation (.artifactMoved p _ _)
  | relocation (.artifactMoveFailed p _ _ _) => some p
  | session (.prepared _) | session .cleanedUp | session (.exhausted _) | relocation (.started _)
  | relocation (.completed _) => none

end Event

end OtaCompile
