import OtaCompile.Naming

/-!
# Reports

Counters and states that the coordinator reports.
-/

namespace OtaCompile

/-- How the commands of a package are used: handed out as text, or executed at once. -/
inductive Mode
  | export
  | direct
deriving DecidableEq, Repr, Inhabited

instance : Named Mode where
  all := [.export, .direct]
  name
    | .export => "export"
    | .direct => "direct"
  find_name a := by cases a <;> rfl

inductive Lifecycle
  | uninitialized
  | active
  | exhausted
deriving DecidableEq, Repr, Inhabited

instance : Named Lifecycle where
  all := [.uninitialized, .active, .exhausted]
  name
    | .uninitialized => "uninitialized"
    | .active => "active"
    | .exhausted => "exhausted"
  find_name a := by cases a <;> rfl

/-- The part of the packages that is finished. -/
structure Progress where
  completed : Nat
  total : Nat
deriving DecidableEq, Repr, Inhabited

/-- The fraction in single precision; nothing to do counts as finished. -/
def Progress.toFloat32 (p : Progress) : Float32 :=
  if p.total = 0 then 1 else p.completed.toUInt64.toFloat32 / p.total.toUInt64.toFloat32

structure Status where
  lifecycle : Lifecycle
  /-- Packages taken over by `prepare`. -/
  total : Nat
  /-- Packages not yet turned into commands. -/
  remaining : Nat
  /-- Commands left of the package being served. -/
  pendingCommands : Nat
  progress : Float32

/-- Counters of one relocation pass. -/
structure RelocationReport where
  scanned : Nat := 0
  /-- Packages with code that could not take part. -/
  skipped : Nat := 0
  attempted : Nat := 0
  moved : Nat := 0
  notStaged : Nat := 0
  failed : Nat := 0
deriving DecidableEq, Repr, Inhabited

/-- Summary of a whole export or direct run. -/
structure RunReport where
  mode : Mode
  totalPackages : Nat
  /-- Commands handed out; direct runs hand out none. -/
  commands : Nat
  durationMs : Nat
deriving DecidableEq, Repr, Inhabited

end OtaCompile
