import OtaCompile.Proofs.Dialogue
import OtaCompile.Generation

/-!
# Policies and backends that execute

A talk with a backend about a list of invocations ends with the first that is refused
(`leads_executeAll`); if the backend executes whatever it is told, it goes through all of them
(`run_executeAll`, `asked_executeAll`).  The standard policy has such a talk about a package, and
the recording backend is such a backend, so it takes down the command of every invocation
(`StandardPolicy.recorded_planFor`).
-/

namespace OtaCompile

variable {σ : Type}

namespace Backend

/-- A request with its reply. -/
abbrev Exchange := (q : Request) × Reply q

def granted (i : Invocation) : Exchange := ⟨.execute i, .ok ()⟩

def refused (i : Invocation) (f : BackendFault) : Exchange := ⟨.execute i, .error f⟩

end Backend

namespace Policy

/-- All invocations are granted, or those in front of one that is refused, and none is tried behind
it. -/
theorem leads_executeAll {result r : PolicyResult} {is : List Invocation}
    {ts : List Backend.Exchange} (h : (executeAll result is).Leads ts r) :
    (ts = is.map Backend.granted ∧ r = result) ∨
      ∃ before i after f, is = before ++ i :: after ∧
        ts = before.map Backend.granted ++ [Backend.refused i f] ∧ r = .failed (.backend f) := by
  induction is generalizing ts with
  | nil => exact .inl (Dialogue.leads_pure.mp h)
  | cons i is ih =>
    obtain ⟨reply, ts', rfl, hrest⟩ := Dialogue.leads_ask.mp h
    cases reply with
    | error f =>
      obtain ⟨rfl, rfl⟩ := Dialogue.leads_pure.mp hrest
      exact .inr ⟨[], i, is, f, rfl, rfl, rfl⟩
    | ok =>
      rcases ih hrest with ⟨rfl, rfl⟩ | ⟨before, j, after, f, rfl, rfl, rfl⟩
      · exact .inl ⟨rfl, rfl⟩
      · exact .inr ⟨i :: before, j, after, f, rfl, rfl, rfl⟩

variable {answer : (q : Backend.Request) → σ → Backend.Reply q × σ}

theorem run_executeAll (hgrant : ∀ i x, (answer (.execute i) x).1 = .ok ()) (r : PolicyResult)
    (is : List Invocation) (x : σ) :
    (executeAll r is).run answer x = (r, Dialogue.behind answer (is.map .execute) x) := by
  induction is generalizing x with
  | nil => rfl
  | cons i is ih =>
    rw [executeAll, Dialogue.run_ask, hgrant]
    exact ih _

theorem asked_executeAll (hgrant : ∀ i x, (answer (.execute i) x).1 = .ok ()) (r : PolicyResult)
    (is : List Invocation) (x : σ) :
    (executeAll r is).asked answer x = is.map .execute := by
  induction is generalizing x with
  | nil => rfl
  | cons i is ih =>
    rw [executeAll, Dialogue.asked_ask, hgrant]
    exact congrArg _ (ih _)

end Policy

/-- What a policy that remembers nothing does about a package of an update. -/
def Policy.planFor (policy : Policy) (p : Package) : Policy.Plan :=
  policy.perform p (.ota (policy.filterFor .abOta))

/-- What a policy that remembers nothing is asked about a package of an update. -/
def Policy.requestsFor (policy : Policy) (p : Package) : List Device.Request :=
  [.policy (.filterFor .abOta), .policy (.perform p (.ota (policy.filterFor .abOta)))]

namespace Procedure

theorem planFor_eq (p : Package) : planFor p = .ask (.policy (.filterFor .abOta)) fun filter =>
    .ask (.policy (.perform p (.ota filter))) .done := rfl

variable {policy : Policy} {answer : (q : Device.Request) → σ → Device.Reply q × σ}
  (hpolicy : ∀ q x, answer (.policy q) x = (policy.answer q, x))
include hpolicy

theorem run_planFor (p : Package) (x : σ) :
    (planFor p).run answer x = (policy.planFor p, x) := by
  rw [planFor_eq, Dialogue.run_ask, hpolicy, Dialogue.run_ask, hpolicy]
  rfl

theorem asked_planFor (p : Package) (x : σ) :
    (planFor p).asked answer x = policy.requestsFor p := by
  rw [planFor_eq, Dialogue.asked_ask, hpolicy, Dialogue.asked_ask, hpolicy]
  rfl

end Procedure

/-- The invocation that is executed, if one is. -/
def Backend.Request.invocation? : Backend.Request → Option Invocation
  | .execute i => some i
  | _ => none

/-- Recording keeps the commands of all invocations, in order. -/
theorem Backend.behind_record (is : List Invocation) (taken : List Command) :
    Dialogue.behind Backend.record (is.map .execute) taken =
      taken ++ is.map Invocation.command := by
  induction is generalizing taken with
  | nil => exact (List.append_nil _).symm
  | cons i is ih =>
    rw [List.map_cons, Dialogue.behind, ih]
    simp [Backend.record]

namespace StandardPolicy

/-- The invocations of a package, none if there is nothing to compile. -/
def work (s : StandardPolicy) (p : Package) (options : CompileOptions) : List Invocation :=
  if p.canOptimize then s.invocations p options else []

theorem perform_eq (s : StandardPolicy) (p : Package) (options : CompileOptions) :
    s.perform p options =
      Policy.executeAll (if p.canOptimize then .performed else .skipped) (s.work p options) := by
  unfold perform work
  split <;> rfl

/-- What an instruction set is compiled for can be seen from what the policy does. -/
theorem apply_eq_of_toPolicy_eq {s s' : StandardPolicy} (h : s.toPolicy = s'.toPolicy)
    (isa : InstructionSet) : s.translation.apply isa = s'.translation.apply isa := by
  let p : Package := { name := "", codePaths := [⟨""⟩], instructionSets := [isa] }
  let asked (policy : Policy) : List Backend.Request :=
    (policy.perform p default).asked (fun q x => (Backend.grant true q, x)) ()
  have hasked (s : StandardPolicy) :
      asked s.toPolicy = [.execute (invocation p default (s.translation.apply isa) ⟨""⟩)] := rfl
  have heq := congrArg asked h
  rw [hasked, hasked, List.singleton_inj] at heq
  exact congrArg InvocationOver.instructionSet (Backend.Request.execute.inj heq)

variable (s : StandardPolicy) (p : Package)

/-- The invocations of a package of an update. -/
def updateWork : List Invocation := s.work p (.ota (s.filterFor .abOta))

theorem planFor_eq : s.toPolicy.planFor p =
    Policy.executeAll (if p.canOptimize then .performed else .skipped) (s.updateWork p) :=
  s.perform_eq p _

section Grant

variable {answer : (q : Backend.Request) → σ → Backend.Reply q × σ}
  (hgrant : ∀ i x, (answer (.execute i) x).1 = .ok ())
include hgrant

/-- The plan goes through with a backend that executes whatever it is told. -/
theorem run_planFor (x : σ) : (s.toPolicy.planFor p).run answer x =
    (if p.canOptimize then .performed else .skipped,
      Dialogue.behind answer ((s.updateWork p).map .execute) x) := by
  rw [planFor_eq, Policy.run_executeAll hgrant]

theorem asked_planFor (x : σ) :
    (s.toPolicy.planFor p).asked answer x = (s.updateWork p).map .execute := by
  rw [planFor_eq, Policy.asked_executeAll hgrant]

end Grant

/-- Recording keeps the commands of all invocations of a package. -/
theorem recorded_planFor :
    Generation.recorded (s.toPolicy.planFor p) =
      (.generated, (s.updateWork p).map Invocation.command) := by
  rw [Generation.recorded, Backend.recorded, s.run_planFor p fun _ _ => rfl,
    Backend.behind_record, List.nil_append]
  cases p.canOptimize <;> rfl

end StandardPolicy

end OtaCompile
