import OtaCompile.Backend
import OtaCompile.Package

/-!
# Compilation policies

A policy chooses the filter for a reason and says which invocations a package needs.  It talks to
some backend; whether that backend compiles or takes notes is not its concern.  So whoever asks a
policy about a package gets a plan, the talk that the policy is going to have with the backend that
it is given.
-/

namespace OtaCompile

structure CompileOptions where
  reason : Compiler.Reason
  filter : Compiler.Filter
  /-- Flags that every invocation gets. -/
  extraFlags : Compiler.Flags
deriving DecidableEq, Repr, Inhabited

/-- What a policy did with a package. -/
inductive PolicyResult
  | performed
  | skipped
  /-- An invocation was refused, and no later one was tried. -/
  | failed (f : Fault)
deriving DecidableEq, Repr

/-- What a policy does about a package. -/
abbrev Policy.Plan := Backend.Talk PolicyResult

/-- A policy that remembers nothing: it answers a question as it did before. -/
structure Policy where
  filterFor : Compiler.Reason → Compiler.Filter
  perform : Package → CompileOptions → Policy.Plan

namespace Policy

/-- What a policy of any kind can be asked. -/
inductive Request
  | filterFor (reason : Compiler.Reason)
  | perform (p : Package) (options : CompileOptions)
deriving DecidableEq, Repr

@[reducible] def Reply : Request → Type
  | .filterFor _ => Compiler.Filter
  | .perform _ _ => Plan

def answer (policy : Policy) : (q : Request) → Reply q
  | .filterFor reason => policy.filterFor reason
  | .perform p options => policy.perform p options

/-- Execute invocations in order up to the first that fails, and end with `result` if none does. -/
def executeAll (result : PolicyResult) : List Invocation → Plan
  | [] => .done result
  | i :: is => .ask (.execute i) fun
    | .ok () => executeAll result is
    | .error f => .done (.failed f)

end Policy

/-- The policy that compiles every code path of a package for every instruction set it needs. -/
structure StandardPolicy where
  /-- Replaces the filter of an A/B update. -/
  otaFilter : Option Compiler.Filter := none
  translation : Translation := ∅
  /-- Compiled for if a package declares no instruction set. -/
  defaultIsa : InstructionSet := .host

namespace StandardPolicy

def filterFor (s : StandardPolicy) (reason : Compiler.Reason) : Compiler.Filter :=
  match reason, s.otaFilter with
  | .abOta, some filter => filter
  | reason, _ => reason.defaultFilter

def flags (options : CompileOptions) : Compiler.Flags :=
  let base := .publicOutput ||| options.extraFlags
  if options.filter.profileGuided then base ||| .profileGuided else base

def invocation (p : Package) (options : CompileOptions) (isa : InstructionSet) (codePath : Path) :
    Invocation where
  codePath
  uid := p.uid
  packageName := p.name
  instructionSet := isa
  outputDir := p.artifactDir
  flags := flags options
  filter := options.filter
  sharedLibraries := p.sharedLibraries

/-- One invocation per instruction set and code path, instruction sets outermost. -/
def invocations (s : StandardPolicy) (p : Package) (options : CompileOptions) : List Invocation :=
  (s.translation.dexCode (p.instructionSetsOr s.defaultIsa)).flatMap fun isa =>
    p.codePaths.map (invocation p options isa)

def perform (s : StandardPolicy) (p : Package) (options : CompileOptions) : Policy.Plan :=
  if p.canOptimize then Policy.executeAll .performed (s.invocations p options) else .done .skipped

def toPolicy (s : StandardPolicy) : Policy := ⟨s.filterFor, s.perform⟩

end StandardPolicy

/-- A policy that follows a script: each package has a number of invocations and a result. -/
structure ScriptedPolicy where
  filter : Compiler.Filter
  script : String → Nat × PolicyResult

namespace ScriptedPolicy

def invocation (p : Package) (options : CompileOptions) (n : Nat) : Invocation where
  codePath := ⟨p.name ++ "#" ++ n.repr⟩
  uid := p.uid
  packageName := p.name
  instructionSet := .arm64
  outputDir := none
  flags := options.extraFlags
  filter := options.filter
  sharedLibraries := []

def perform (s : ScriptedPolicy) (p : Package) (options : CompileOptions) : Policy.Plan :=
  let (count, result) := s.script p.name
  Policy.executeAll result ((List.range count).map (invocation p options))

def toPolicy (s : ScriptedPolicy) : Policy := ⟨fun _ => s.filter, s.perform⟩

end ScriptedPolicy

end OtaCompile
