import OtaCompile.Console.Program
import OtaCompile.Coordinator.Run
import OtaCompile.Proofs.Coordinator.Trace

/-!
# Runs that compile all packages

The loop of a run compiles packages while the session is not done (`LoopRuns`).  It leaves one
package less with every turn, and since no call of it leaves a queue of commands, it comes to an end
when there are no packages any more, if no check for space fails before (`loopRuns_compileMany`).
With a queue left behind by other calls it would never end (`not_loopRuns_of_queue`).
-/

namespace OtaCompile

open Dialogue (Runs runs_pure runs_bind runs_question)
open Session

namespace Coordinator

variable {σ : Type} {answer : (q : Device.Request) → σ → Device.Reply q × σ} {c : Coordinator}

/-! ## The loop -/

/-- The loop that compiles the next package while the session is not done, from a session and a
device on: what it asks and tells, how many calls it makes, what it comes to, and the session and
the device behind it. -/
inductive LoopRuns (answer : (q : Device.Request) → σ → Device.Reply q × σ) (c : Coordinator) :
    Session → σ → List Device.Exchange → Nat → Except Fault Unit → Session → σ → Prop
  | misuse {s : Session} {x : σ} {f : Fault} (h : s.isDone = .error f) :
    LoopRuns answer c s x [] 0 (.error f) s x
  | done {s : Session} {x : σ} (h : s.isDone = .ok true) : LoopRuns answer c s x [] 0 (.ok ()) s x
  | stop {s s' : Session} {x x' : σ} {ts : List Device.Exchange} {f : Fault}
    (h : s.isDone = .ok false) (hcall : Runs answer (c.nextPackage s) x ts (.error f, s') x') :
    LoopRuns answer c s x ts 1 (.error f) s' x'
  | turn {s s' s'' : Session} {x x' x'' : σ} {ts ts' : List Device.Exchange} {n : Nat}
    {r : Except Fault Unit} (h : s.isDone = .ok false)
    (hcall : Runs answer (c.nextPackage s) x ts (.ok (), s') x')
    (hrest : LoopRuns answer c s' x' ts' n r s'' x'') :
    LoopRuns answer c s x (ts ++ ts') (n + 1) r s'' x''

/-- The loop does what is done with more turns allowed than it makes calls. -/
theorem LoopRuns.runs_compileMany {s s' : Session} {x x' : σ} {ts : List Device.Exchange}
    {n bound : Nat} {r : Except Fault Unit} (h : LoopRuns answer c s x ts n r s' x')
    (hbound : n < bound) : Runs answer (c.compileMany bound s) x ts (r, s') x' := by
  induction h generalizing bound with
  | misuse h =>
    obtain ⟨bound, rfl⟩ := Nat.exists_eq_add_one_of_ne_zero (Nat.ne_zero_of_lt hbound)
    rw [compileMany, h]
    exact runs_pure.mpr ⟨rfl, rfl, rfl⟩
  | done h =>
    obtain ⟨bound, rfl⟩ := Nat.exists_eq_add_one_of_ne_zero (Nat.ne_zero_of_lt hbound)
    rw [compileMany, h]
    exact runs_pure.mpr ⟨rfl, rfl, rfl⟩
  | @stop s s' x x' ts f h hcall =>
    obtain ⟨bound, rfl⟩ := Nat.exists_eq_add_one_of_ne_zero (Nat.ne_zero_of_lt hbound)
    rw [compileMany, h]
    exact runs_bind.mpr ⟨ts, _, x', [], (List.append_nil ts).symm, hcall,
      runs_pure.mpr ⟨rfl, rfl, rfl⟩⟩
  | @turn s s' s'' x x' x'' ts ts' n r h hcall hrest ih =>
    obtain ⟨bound, rfl⟩ := Nat.exists_eq_add_one_of_ne_zero (Nat.ne_zero_of_lt hbound)
    rw [compileMany, h]
    exact runs_bind.mpr ⟨ts, _, x', ts', rfl, hcall, ih (Nat.lt_of_succ_lt_succ hbound)⟩

/-- With commands queued and no package left, the loop would go on for ever. -/
theorem not_loopRuns_of_queue {queue : List Command} {total : Nat} {x x' : σ}
    {ts : List Device.Exchange} {n : Nat} {r : Except Fault Unit} {s' : Session} :
    ¬ LoopRuns answer c (prepared ⟨[], some queue, total⟩) x ts n r s' x' := by
  intro h
  generalize hs : prepared ⟨[], some queue, total⟩ = s at h
  induction h with
  | misuse h =>
    subst hs
    cases h
  | done h =>
    subst hs
    cases h
  | stop h hcall =>
    subst hs
    obtain ⟨-, hr, -⟩ := runs_pure.mp hcall
    cases hr
  | turn h hcall hrest ih =>
    subst hs
    obtain ⟨-, hr, -⟩ := runs_pure.mp hcall
    cases hr
    exact ih rfl

/-! ## Its visits -/

/-- Visits of packages in order, each to compile it, up to the first whose check fails. -/
inductive VisitsAll (c : Coordinator) : List Package → List (Visit c) → Except Fault Unit → Prop
  | nil : VisitsAll c [] [] (.ok ())
  | stop (v : Visit c) {pending : List Package} {f : Fault} (hmode : v.mode = .direct)
    (hremaining : v.remaining = pending.length) (hresult : v.result = .error f) :
    VisitsAll c (v.package :: pending) [v] (.error f)
  | cons (v : Visit c) {pending : List Package} {vs : List (Visit c)} {r : Except Fault Unit}
    {commands : List Command} (hmode : v.mode = .direct) (hremaining : v.remaining = pending.length)
    (hresult : v.result = .ok commands) (h : VisitsAll c pending vs r) :
    VisitsAll c (v.package :: pending) (v :: vs) r

/-- A call for the next package visits it. -/
theorem runs_nextPackage {p : Package} {pending : List Package} {current : Option (List Command)}
    {total : Nat} {x x' : σ} {ts : List Device.Exchange} {r : Except Fault Unit} {s : Session}
    (h : Runs answer (c.nextPackage (prepared ⟨p :: pending, current, total⟩)) x ts (r, s) x') :
    ∃ v : Visit c, v.package = p ∧ v.mode = .direct ∧ v.remaining = pending.length ∧
      packagePart ts = v.exchanges ∧ r = v.result.map (fun _ => ()) ∧
      s = prepared ⟨pending, current, total⟩ := by
  obtain ⟨vs, w', rfl, hstep⟩ := leads_nextPackage h.leads
  have hpart := hstep.packagePart_eq
  cases hstep with
  | compile v current total hremaining hmode =>
    refine ⟨v, rfl, hmode, hremaining, ?_, rfl, rfl⟩
    rw [hpart, List.flatMap_singleton]

/-- With fewer packages than turns allowed, the loop ends for want of packages or with a fault, and
never for want of turns. -/
theorem loopRuns_compileMany {pending : List Package} {total bound : Nat} {x x' : σ}
    {ts : List Device.Exchange} {r : Except Fault Unit} {s' : Session}
    (hbound : pending.length < bound)
    (h : Runs answer (c.compileMany bound (prepared ⟨pending, none, total⟩)) x ts (r, s') x') :
    ∃ vs : List (Visit c),
      LoopRuns answer c (prepared ⟨pending, none, total⟩) x ts vs.length r s' x' ∧
        VisitsAll c pending vs r ∧ packagePart ts = vs.flatMap Visit.exchanges := by
  induction pending generalizing bound x ts with
  | nil =>
    obtain ⟨bound, rfl⟩ := Nat.exists_eq_add_one_of_ne_zero (Nat.ne_zero_of_lt hbound)
    obtain ⟨rfl, hr, rfl⟩ := runs_pure.mp h
    cases hr
    exact ⟨[], .done rfl, .nil, rfl⟩
  | cons p pending ih =>
    obtain ⟨bound, rfl⟩ := Nat.exists_eq_add_one_of_ne_zero (Nat.ne_zero_of_lt hbound)
    obtain ⟨ts₁, ⟨r₁, s₁⟩, x₁, ts₂, rfl, hcall, hrest⟩ := runs_bind.mp h
    obtain ⟨v, rfl, hmode, hremaining, hpart, hr, rfl⟩ := runs_nextPackage hcall
    rcases hresult : v.result with f | commands
    · rw [hresult] at hr
      subst hr
      obtain ⟨rfl, hend, rfl⟩ := runs_pure.mp hrest
      cases hend
      refine ⟨[v], ?_, .stop v hmode hremaining hresult, ?_⟩
      · rw [List.append_nil]
        exact .stop rfl hcall
      · rw [List.append_nil, hpart, List.flatMap_singleton]
    · rw [hresult] at hr
      subst hr
      have hbound' : pending.length < bound := Nat.lt_of_succ_lt_succ hbound
      obtain ⟨vs, hloop, hvisits, hparts⟩ := ih hbound' hrest
      refine ⟨v :: vs, .turn rfl hcall hloop, .cons v hmode hremaining hresult hvisits, ?_⟩
      rw [packagePart_append, hpart, hparts, List.flatMap_cons]

variable {packages : List Package} {vs : List (Visit c)} {r : Except Fault Unit}

namespace VisitsAll

theorem map_package_eq (h : VisitsAll c packages vs r) :
    vs.map Visit.package = packages.take vs.length := by
  induction h with
  | nil => rfl
  | stop v hmode hremaining hresult => rfl
  | cons v hmode hremaining hresult h ih =>
    rw [List.map_cons, ih, List.length_cons, List.take_succ_cons]

theorem length_le (h : VisitsAll c packages vs r) : vs.length ≤ packages.length := by
  have hlength := congrArg List.length h.map_package_eq
  rw [List.length_map, List.length_take] at hlength
  omega

theorem direct (h : VisitsAll c packages vs r) : ∀ v ∈ vs, v.mode = .direct := by
  induction h with
  | nil => exact List.forall_mem_nil _
  | stop v hmode hremaining hresult => exact List.forall_mem_singleton.mpr hmode
  | cons v hmode hremaining hresult h ih => exact List.forall_mem_cons.mpr ⟨hmode, ih⟩

/-- Either all packages are visited and no visit fails, or the last visit fails and no other. -/
theorem ended (h : VisitsAll c packages vs r) :
    (r = .ok () ∧ vs.length = packages.length ∧ ∀ v ∈ vs, ∀ f, v.result ≠ .error f) ∨
      ∃ before v f, vs = before ++ [v] ∧ (∀ u ∈ before, ∀ g, u.result ≠ .error g) ∧
        v.result = .error f ∧ r = .error f := by
  induction h with
  | nil => exact .inl ⟨rfl, rfl, List.forall_mem_nil _⟩
  | stop v hmode hremaining hresult =>
    exact .inr ⟨[], v, _, rfl, List.forall_mem_nil _, hresult, rfl⟩
  | cons v hmode hremaining hresult h ih =>
    have hv : ∀ f, v.result ≠ .error f := fun f hf => by
      rw [hresult] at hf
      cases hf
    rcases ih with ⟨rfl, hlength, hvs⟩ | ⟨before, u, f, rfl, hbefore, hu, rfl⟩
    · exact .inl ⟨rfl, congrArg (· + 1) hlength, List.forall_mem_cons.mpr ⟨hv, hvs⟩⟩
    · exact .inr ⟨v :: before, u, f, rfl, List.forall_mem_cons.mpr ⟨hv, hbefore⟩, hu, rfl⟩

end VisitsAll

/-! ## Whole runs -/

/-- A run is the loop between the two events of its session. -/
theorem runs_compileAll {x x' : σ} {ts : List Device.Exchange} {r : Except Fault Nat} {s : Session}
    (h : Runs answer (c.compileAll .new) x ts (r, s) x') :
    ∃ ts' r' s' x'', ts = ⟨.report (SessionEvent.prepared c.registry.forDexopt.length), ()⟩ ::
        (ts' ++ [⟨.report SessionEvent.cleanedUp, ()⟩]) ∧
      Runs answer
        (c.compileMany (c.registry.forDexopt.length + 1)
          (prepared ⟨c.registry.forDexopt, none, c.registry.forDexopt.length⟩))
        (answer (.report (SessionEvent.prepared c.registry.forDexopt.length)) x).2 ts' (r', s')
        x'' ∧
      r = r'.map (fun _ => c.registry.forDexopt.length) ∧ s = .idle := by
  obtain ⟨ts₁, ⟨r₁, s₁⟩, x₁, ts₂, rfl, hprepare, hprepared⟩ := runs_bind.mp h
  obtain ⟨ts₃, rfl, hbegun⟩ := runs_question.mp hprepare
  obtain ⟨rfl, hvalue, rfl⟩ := runs_pure.mp hbegun
  cases hvalue
  obtain ⟨ts₄, ⟨r', s'⟩, x₂, ts₅, rfl, hloop, hlast⟩ := runs_bind.mp hprepared
  obtain ⟨ts₆, s₆, x₃, ts₇, rfl, hcleanup, hend⟩ := runs_bind.mp hlast
  obtain ⟨ts₈, rfl, hcleaned⟩ := runs_question.mp hcleanup
  obtain ⟨rfl, rfl, rfl⟩ := runs_pure.mp hcleaned
  obtain ⟨rfl, hvalue, rfl⟩ := runs_pure.mp hend
  cases hvalue
  exact ⟨ts₄, r', s', x₂, rfl, hloop, rfl, rfl⟩

/-- A procedure on the host between two looks at the clock, and what is told of its result and of
the time it took. -/
def timed {α : Type} (parts : Host.DeviceParts) (tell : Event → Host.Job Unit)
    (p : Procedure (Except Fault α × Session)) (summary : α → Nat → Console.Summary) :
    Host.Job (Except Fault Console.Summary) := do
  let started ← Dialogue.question Host.Request.clock
  let (result, _) ← Host.perform parts tell p
  let ended ← Dialogue.question Host.Request.clock
  return result.map fun a => summary a (ended - started)

theorem run_timed {α ρ : Type} (host : (q : Host.Request) → ρ → Host.Reply q × ρ)
    (parts : Host.DeviceParts) (tell : Event → Host.Job Unit)
    (p : Procedure (Except Fault α × Session)) (summary : α → Nat → Console.Summary) (y : ρ) :
    ∃ durationMs,
      (Dialogue.run host (timed parts tell p summary) y).1 =
        (p.run (fun q => Dialogue.run host (Host.deviceAnswer parts tell q))
          (host .clock y).2).1.1.map (summary · durationMs) := by
  have hruns : Runs host (timed parts tell p summary) y _ _ _ := ⟨rfl, rfl⟩
  obtain ⟨ts₁, -, htimed⟩ := runs_question.mp hruns
  obtain ⟨ts₂, ⟨result, s⟩, y', ts₃, -, hrun, hbehind⟩ := runs_bind.mp htimed
  obtain ⟨ts₄, -, hend⟩ := runs_question.mp hbehind
  obtain ⟨-, hvalue, -⟩ := runs_pure.mp hend
  have hresult := hrun.2
  rw [Host.perform, Dialogue.run_through] at hresult
  rw [hresult]
  exact ⟨_, hvalue⟩

/-- What the program tells of a run: its fault, or a report of the packages prepared. -/
theorem run_operate {ρ : Type} (host : (q : Host.Request) → ρ → Host.Reply q × ρ)
    (parts : Host.DeviceParts) (tell : Event → Host.Job Unit) (c : Coordinator)
    (backend : Option Path) (y : ρ) :
    ∃ durationMs,
      (Dialogue.run host (Console.operate parts tell c (.run backend)) y).1 =
        ((c.compileAll .new).run (fun q => Dialogue.run host (Host.deviceAnswer parts tell q))
          (host .clock y).2).1.1.map fun totalPackages =>
            .compiled { mode := .direct, totalPackages, commands := 0, durationMs } :=
  run_timed host parts tell (c.compileAll .new)
    (fun totalPackages durationMs =>
      .compiled { mode := .direct, totalPackages, commands := 0, durationMs }) y

/-- **Runs that compile all packages.**  The loop of a run ends, after no more calls than packages
were prepared.  Each call visits one package, in the order of the registry, up to the first whose
check for space fails; if there is none, all are visited.  The run comes to that fault, or to the
number of packages prepared, and leaves the session idle; the program reports the same. -/
theorem run_visits (answer : (q : Device.Request) → σ → Device.Reply q × σ) (c : Coordinator)
    (x : σ) :
    let packages := c.registry.forDexopt
    let prepared : Device.Exchange := ⟨.report (SessionEvent.prepared packages.length), ()⟩
    let dataDir := c.generator.guard.dataDir
    let result := ((c.compileAll .new).run answer x).1.1
    (∃ ts n r s x', ∃ vs : List (Visit c),
      (c.compileAll .new).transcript answer x =
        prepared :: (ts ++ [⟨.report SessionEvent.cleanedUp, ()⟩]) ∧
      LoopRuns answer c (.prepared ⟨packages, none, packages.length⟩) (answer prepared.1 x).2 ts n r
        s x' ∧
      n ≤ packages.length ∧ vs.map Visit.package = packages.take n ∧
      packagePart ts = vs.flatMap Visit.exchanges ∧ (∀ v ∈ vs, v.mode = .direct ∧ v.Block) ∧
      ((n = packages.length ∧ (∀ v ∈ vs, ∀ f, v.finding.check dataDir ≠ .error f) ∧
          result = .ok packages.length) ∨
        ∃ before v f, vs = before ++ [v] ∧
          (∀ u ∈ before, ∀ g, u.finding.check dataDir ≠ .error g) ∧
          v.finding.check dataDir = .error f ∧ result = .error f)) ∧
    ((c.compileAll .new).run answer x).1.2 = .idle ∧
    ∀ {ρ : Type} (host : (q : Host.Request) → ρ → Host.Reply q × ρ) (parts : Host.DeviceParts)
      (tell : Event → Host.Job Unit) (backend : Option Path) (y : ρ), ∃ durationMs,
        (Dialogue.run host (Console.operate parts tell c (.run backend)) y).1 =
          ((c.compileAll .new).run (fun q => Dialogue.run host (Host.deviceAnswer parts tell q))
            (host .clock y).2).1.1.map fun totalPackages =>
              .compiled { mode := .direct, totalPackages, commands := 0, durationMs } := by
  intro packages prepared dataDir result
  have hruns : Runs answer (c.compileAll .new) x ((c.compileAll .new).transcript answer x)
      (result, ((c.compileAll .new).run answer x).1.2) ((c.compileAll .new).run answer x).2 :=
    ⟨rfl, rfl⟩
  obtain ⟨ts, r, s, x', hts, hloop, hr, hs⟩ := runs_compileAll hruns
  obtain ⟨vs, hturns, hvisits, hpart⟩ := loopRuns_compileMany (Nat.lt_succ_self _) hloop
  refine ⟨⟨ts, vs.length, r, s, x', vs, hts, hturns, hvisits.length_le, hvisits.map_package_eq,
    hpart, fun v hv => ⟨hvisits.direct v hv, v.block⟩, ?_⟩, hs,
    fun host parts tell backend y => run_operate host parts tell c backend y⟩
  rcases hvisits.ended with ⟨rfl, hlength, hall⟩ | ⟨before, v, f, hvs, hbefore, hv, rfl⟩
  · exact .inl ⟨hlength, fun v hmem f => mt (v.block.fault_iff f).mpr (hall v hmem f), hr⟩
  · exact .inr ⟨before, v, f, hvs, fun u hmem g => mt (u.block.fault_iff g).mpr (hbefore u hmem g),
      (v.block.fault_iff f).mp hv, hr⟩

end Coordinator

end OtaCompile
