import OtaCompile.Proofs.Coordinator.Step

/-!
# Traces of packages

What is seen from outside of a visit: the package is told to be taken, the volume is asked, and then
the policy has its say if there is space (`Visit.performs_iff`); one event tells what became of the
package, unless its check fails (`Visit.block`).  All that the calls of a session ask and tell of
packages are such blocks, one a package in the order of the snapshot (`history_visits`).
-/

namespace OtaCompile

open Procedure Session

/-! ## What is seen of exchanges -/

/-- A question to the policy. -/
def Device.Request.isPolicy : Device.Request → Bool
  | .policy _ => true
  | _ => false

/-- The event of a package, if one is told. -/
def Device.Exchange.packageEvent? : Device.Exchange → Option PackageEvent
  | ⟨.report (.package e), _⟩ => some e
  | _ => none

/-- The events of packages that are told. -/
def packageEvents (ts : List Device.Exchange) : List PackageEvent :=
  ts.filterMap Device.Exchange.packageEvent?

/-- What is asked of volumes. -/
def storagePart (ts : List Device.Exchange) : List Device.Exchange :=
  ts.filter fun t => t.1.isStorage

/-- What the policy is asked. -/
def policyPart (ts : List Device.Exchange) : List Device.Exchange :=
  ts.filter fun t => t.1.isPolicy

/-- All but the events of the session. -/
def packagePart (ts : List Device.Exchange) : List Device.Exchange :=
  ts.filter fun t => !t.1.isSessionEvent

@[simp] theorem packageEvents_nil : packageEvents [] = [] := rfl

@[simp] theorem storagePart_nil : storagePart [] = [] := rfl

@[simp] theorem policyPart_nil : policyPart [] = [] := rfl

@[simp] theorem packagePart_nil : packagePart [] = [] := rfl

section Append

variable (ts ts' : List Device.Exchange)

@[simp] theorem packageEvents_append :
    packageEvents (ts ++ ts') = packageEvents ts ++ packageEvents ts' := List.filterMap_append ..

@[simp] theorem storagePart_append :
    storagePart (ts ++ ts') = storagePart ts ++ storagePart ts' := List.filter_append ..

@[simp] theorem policyPart_append :
    policyPart (ts ++ ts') = policyPart ts ++ policyPart ts' := List.filter_append ..

@[simp] theorem packagePart_append :
    packagePart (ts ++ ts') = packagePart ts ++ packagePart ts' := List.filter_append ..

/-- Nothing is seen of the events in front of exchanges and behind them. -/
theorem packagePart_between (e e' : SessionEvent) :
    packagePart (⟨.report e, ()⟩ :: (ts ++ [⟨.report e', ()⟩])) = packagePart ts :=
  (packagePart_append ts _).trans (List.append_nil _)

/-- Events of the session are not asked of volumes. -/
theorem storagePart_packagePart : storagePart (packagePart ts) = storagePart ts := by
  rw [packagePart, storagePart, List.filter_filter]
  refine congrArg (ts.filter ·) (funext fun ⟨q, r⟩ => ?_)
  cases q <;> rfl

theorem policyPart_packagePart : policyPart (packagePart ts) = policyPart ts := by
  rw [packagePart, policyPart, List.filter_filter]
  refine congrArg (ts.filter ·) (funext fun ⟨q, r⟩ => ?_)
  cases q <;> rfl

theorem packageEvents_packagePart : packageEvents (packagePart ts) = packageEvents ts := by
  rw [packagePart, packageEvents, List.filterMap_filter]
  refine congrArg (ts.filterMap ·) (funext fun ⟨q, r⟩ => ?_)
  cases q with
  | report e => cases e <;> rfl
  | _ => rfl

end Append

namespace Finding

variable (k : Finding) (d : Path)

@[simp] theorem packageEvents_exchanges : packageEvents (k.exchanges d) = [] := by
  cases k <;> rfl

@[simp] theorem storagePart_exchanges : storagePart (k.exchanges d) = k.exchanges d := by
  cases k <;> rfl

@[simp] theorem policyPart_exchanges : policyPart (k.exchanges d) = [] := by
  cases k <;> rfl

@[simp] theorem packagePart_exchanges : packagePart (k.exchanges d) = k.exchanges d := by
  cases k <;> rfl

/-- What the volume answers to the question for its threshold. -/
def threshold : Finding → Except PlatformFault UInt64
  | unknown f => .error f
  | noThreshold => .ok 0
  | measured threshold _ _ => .ok threshold

/-- What it answers to the question for its free space, if it is asked. -/
def usable? : Finding → Option (Except PlatformFault UInt64)
  | measured _ usable _ => some usable
  | _ => none

/-- The threshold is asked for once, and then the free space at most once. -/
theorem exchanges_eq : k.exchanges d = ⟨.threshold d, k.threshold⟩ ::
    (k.usable?.map fun usable => (⟨.usable d, usable⟩ : Device.Exchange)).toList := by
  cases k <;> rfl

/-- The free space is asked for behind a threshold that is not zero. -/
theorem usable?_isSome_iff : k.usable?.isSome = true ↔ ∃ n, k.threshold = .ok n ∧ n ≠ 0 := by
  cases k with
  | unknown f => exact iff_of_false nofun fun ⟨n, h, _⟩ => nomatch h
  | noThreshold => exact iff_of_false nofun fun ⟨n, h, hn⟩ => hn (Except.ok.inj h).symm
  | measured threshold usable pos =>
    exact iff_of_true rfl ⟨threshold, rfl, UInt64.pos_iff_ne_zero.mp pos⟩

/-- A check that finds space does not fail. -/
theorem check_ne_error (h : k.sufficient = true) (f : Fault) : k.check d ≠ .error f := by
  cases k with
  | unknown f => cases h
  | noThreshold => cases h
  | measured threshold usable pos => exact nofun

end Finding

section Consultation

variable (p : Package) (filter : Compiler.Filter) (plan : Policy.Plan)

@[simp] theorem packageEvents_consultation : packageEvents (consultation p filter plan) = [] := rfl

@[simp] theorem storagePart_consultation : storagePart (consultation p filter plan) = [] := rfl

@[simp] theorem policyPart_consultation :
    policyPart (consultation p filter plan) = consultation p filter plan := rfl

@[simp] theorem packagePart_consultation :
    packagePart (consultation p filter plan) = consultation p filter plan := rfl

end Consultation

section Talk

variable (talk : List ((q : Backend.Request) × Backend.Reply q))

/-- What keeps no request to the backend keeps nothing of a talk with it. -/
theorem filter_talk {keep : Device.Request → Bool} (hbackend : ∀ q, keep (.backend q) = false) :
    (talk.map Device.Exchange.ofBackend).filter (fun t => keep t.1) = [] := by
  rw [List.filter_map, List.map_eq_nil_iff, List.filter_eq_nil_iff]
  exact fun t _ => Bool.eq_false_iff.mp (hbackend t.1)

@[simp] theorem packageEvents_talk :
    packageEvents (talk.map Device.Exchange.ofBackend) = [] := by
  rw [packageEvents, List.filterMap_map]
  exact List.filterMap_eq_nil_iff.mpr fun _ _ => rfl

@[simp] theorem storagePart_talk : storagePart (talk.map Device.Exchange.ofBackend) = [] :=
  filter_talk talk fun _ => rfl

@[simp] theorem policyPart_talk : policyPart (talk.map Device.Exchange.ofBackend) = [] :=
  filter_talk talk fun _ => rfl

@[simp] theorem packagePart_talk :
    packagePart (talk.map Device.Exchange.ofBackend) = talk.map Device.Exchange.ofBackend := by
  rw [packagePart, List.filter_map]
  exact congrArg (List.map _) (List.filter_eq_self.mpr fun _ _ => rfl)

variable (p : Package) (filter : Compiler.Filter) (plan : Policy.Plan)

/-- What keeps no request to the backend and none for the lock sees the consultation alone. -/
theorem filter_underLock {keep : Device.Request → Bool}
    (hbackend : ∀ q, keep (.backend q) = false) (hlock : keep .lock = false)
    (hunlock : keep .unlock = false) :
    (underLock p filter plan talk).filter (fun t => keep t.1) =
      (consultation p filter plan).filter fun t => keep t.1 := by
  have htalk := filter_talk talk hbackend
  simp [underLock, hlock, hunlock, htalk]

@[simp] theorem packageEvents_underLock : packageEvents (underLock p filter plan talk) = [] := by
  rw [underLock, packageEvents_append, packageEvents, List.filterMap_cons_none rfl,
    ← packageEvents, packageEvents_append, packageEvents_talk]
  rfl

@[simp] theorem storagePart_underLock : storagePart (underLock p filter plan talk) = [] :=
  filter_underLock talk p filter plan (fun _ => rfl) rfl rfl

@[simp] theorem policyPart_underLock :
    policyPart (underLock p filter plan talk) = consultation p filter plan :=
  filter_underLock talk p filter plan (fun _ => rfl) rfl rfl

@[simp] theorem packagePart_underLock :
    packagePart (underLock p filter plan talk) = underLock p filter plan talk := by
  rw [underLock, packagePart_append, packagePart, List.filter_cons_of_pos rfl, ← packagePart,
    packagePart_append, packagePart_talk]
  rfl

end Talk

namespace Coordinator

section Told

variable (e : PackageEvent) (ts : List Device.Exchange)

@[simp] theorem packageEvents_told :
    packageEvents (told e :: ts) = e :: packageEvents ts := rfl

@[simp] theorem storagePart_told : storagePart (told e :: ts) = storagePart ts := rfl

@[simp] theorem policyPart_told : policyPart (told e :: ts) = policyPart ts := rfl

@[simp] theorem packagePart_told : packagePart (told e :: ts) = told e :: packagePart ts := rfl

end Told

variable {c : Coordinator}

/-! ## Blocks -/

namespace Visit

variable (v : Visit c)

/-- The events that may tell what became of the package. -/
inductive Tells : PackageEvent → Prop
  | commandsGenerated (hmode : v.mode = .export) :
    Tells (.commandsGenerated v.package.name v.commands.length)
  | compiled (hmode : v.mode = .direct) : Tells (.compiled v.package.name)
  | lowSpace {usable threshold : UInt64} (hpos : 0 < threshold) (hlow : usable < threshold)
    (hthreshold : v.finding.threshold = .ok threshold)
    (husable : v.finding.usable?.map Finding.bytes = some usable) :
    Tells (.skipped v.package.name (.lowSpace usable threshold))
  | policyFailed (hmode : v.mode = .export) (message : String) :
    Tells (.skipped v.package.name (.policyFailed message))
  | failed (hmode : v.mode = .direct) (advice : Advice) : Tells (.failed v.package.name advice)

/-- What the policy's result is told as; `n` commands were recorded. -/
def resultEvent (r : PolicyResult) (n : Nat) : PackageEvent :=
  match v.mode, r.fault? with
  | .export, none => .commandsGenerated v.package.name n
  | .export, some f => .skipped v.package.name (.policyFailed f.message)
  | .direct, none => .compiled v.package.name
  | .direct, some f => .failed v.package.name f.advice

/-- The policy runs for the package: it is asked for its plan, which is carried out against the
recording backend, or under the lock against the device's, and what that comes to is told. -/
def Performs : Prop :=
  ∃ (filter : Compiler.Filter) (plan : Policy.Plan),
    match v.mode with
    | .export => v.commands = plan.kept ∧
        v.outcome = consultation v.package filter plan ++
          [told (v.resultEvent (Backend.recorded plan).1 (Backend.recorded plan).2.length)]
    | .direct => ∃ talk r, plan.Leads talk r ∧
        v.outcome = underLock v.package filter plan talk ++ [told (v.resultEvent r 0)]

/-- What is asked and told of a package, seen from outside. -/
structure Block : Prop where
  fault_iff : ∀ f, v.result = .error f ↔ v.finding.check c.generator.guard.dataDir = .error f
  /-- A package whose check fails is told to be taken, and no more is told of it. -/
  unchecked : ∀ f, v.result = .error f →
    packageEvents v.exchanges = [.processing v.package.name v.mode v.remaining]
  /-- Of any other one event tells what became of it. -/
  checked : ∀ commands, v.result = .ok commands → ∃ e, v.Tells e ∧
    packageEvents v.exchanges = [.processing v.package.name v.mode v.remaining, e]
  /-- The threshold is asked for once, and then the free space at most once. -/
  storage : storagePart v.exchanges =
    ⟨.threshold c.generator.guard.dataDir, v.finding.threshold⟩ ::
      (v.finding.usable?.map fun usable =>
        (⟨.usable c.generator.guard.dataDir, usable⟩ : Device.Exchange)).toList
  usable_iff : v.finding.usable?.isSome = true ↔ ∃ n, v.finding.threshold = .ok n ∧ n ≠ 0
  performs_iff : v.Performs ↔ v.finding.sufficient = true
  /-- Where there is space the policy is asked for its filter, and once to perform. -/
  consults : v.finding.sufficient = true →
    ∃ filter plan, policyPart v.exchanges = consultation v.package filter plan
  /-- Where there is none the policy is not asked for anything. -/
  spares : v.finding.sufficient = false → policyPart v.exchanges = []
  /-- Neither the lock nor the backend is asked for, but to compile where there is space. -/
  quiet : (v.mode = .direct → v.finding.sufficient = false) → ∀ t ∈ v.exchanges,
    t.1.isStorage = true ∨ t.1.isPolicy = true ∨ ∃ e : PackageEvent, t = told e

theorem packageEvents_exchanges : packageEvents v.exchanges =
    .processing v.package.name v.mode v.remaining :: packageEvents v.outcome := by
  simp [exchanges]

end Visit

variable {p : Package} {mode : Mode} {k : Finding} {outcome : List Device.Exchange}
  {r : Except Fault (List Command)}

/-- What follows on a check asks nothing of volumes. -/
theorem Handled.storagePart_eq (h : Handled c p mode k outcome r) : storagePart outcome = [] := by
  cases h with
  | unchecked mode hcheck => rfl
  | low mode hlow => rfl
  | recorded hspace filter hr hplan => rfl
  | unrecorded hspace filter hplan => rfl
  | compiled hspace filter hr hplan => simp
  | failed hspace filter hplan => simp

/-- What follows on a check tells of no event of the session. -/
theorem Handled.packagePart_eq (h : Handled c p mode k outcome r) :
    packagePart outcome = outcome := by
  cases h with
  | unchecked mode hcheck => rfl
  | low mode hlow => rfl
  | recorded hspace filter hr hplan => rfl
  | unrecorded hspace filter hplan => rfl
  | compiled hspace filter hr hplan => simp
  | failed hspace filter hplan => simp

/-- The package has a fault exactly if its check has it. -/
theorem Handled.fault_iff (h : Handled c p mode k outcome r) (f : Fault) :
    r = .error f ↔ k.check c.generator.guard.dataDir = .error f := by
  cases h with
  | @unchecked mode k f' hcheck => rw [hcheck, Except.error.injEq, Except.error.injEq]
  | low mode hlow => exact iff_of_false nofun nofun
  | recorded hspace filter hr hplan => exact iff_of_false nofun (k.check_ne_error _ hspace f)
  | unrecorded hspace filter hplan => exact iff_of_false nofun (k.check_ne_error _ hspace f)
  | compiled hspace filter hr hplan => exact iff_of_false nofun (k.check_ne_error _ hspace f)
  | failed hspace filter hplan => exact iff_of_false nofun (k.check_ne_error _ hspace f)

/-- The policy is consulted once if there is space, and else not at all. -/
theorem Handled.policyPart_eq (h : Handled c p mode k outcome r) :
    if k.sufficient = true then ∃ filter plan, policyPart outcome = consultation p filter plan
    else policyPart outcome = [] := by
  cases h with
  | @unchecked mode k f hcheck =>
    rw [if_neg fun hspace => k.check_ne_error _ hspace f hcheck]
    rfl
  | low mode hlow =>
    rw [if_neg fun hspace => Finding.sufficient_iff.mp hspace hlow]
    rfl
  | @recorded k hspace filter plan r commands hr hplan =>
    rw [if_pos hspace]
    exact ⟨filter, plan, rfl⟩
  | @unrecorded k hspace filter plan f commands hplan =>
    rw [if_pos hspace]
    exact ⟨filter, plan, rfl⟩
  | @compiled k hspace filter plan r talk hr hplan =>
    rw [if_pos hspace]
    exact ⟨filter, plan, by simp⟩
  | @failed k hspace filter plan f talk hplan =>
    rw [if_pos hspace]
    exact ⟨filter, plan, by simp⟩

/-- What follows on a check is told, or asked of the policy, unless the package is compiled. -/
theorem Handled.told_of_quiet (h : Handled c p mode k outcome r)
    (hquiet : mode = .direct → k.sufficient = false) :
    ∀ t ∈ outcome, t.1.isPolicy = true ∨ ∃ e, t = told e := by
  have hconsulted : ∀ (filter : Compiler.Filter) (plan : Policy.Plan) (e : PackageEvent),
      ∀ t ∈ consultation p filter plan ++ [told e], t.1.isPolicy = true ∨ ∃ e, t = told e := by
    intro filter plan e t ht
    rcases List.mem_append.mp ht with ht | ht
    · exact .inl (List.filter_eq_self.mp (policyPart_consultation p filter plan) t ht)
    · exact .inr ⟨e, List.mem_singleton.mp ht⟩
  cases h with
  | unchecked mode hcheck => exact List.forall_mem_nil _
  | low mode hlow => exact List.forall_mem_singleton.mpr (.inr ⟨_, rfl⟩)
  | recorded hspace filter hr hplan => exact hconsulted filter _ _
  | unrecorded hspace filter hplan => exact hconsulted filter _ _
  | compiled hspace filter hr hplan =>
    exact absurd hspace (Bool.eq_false_iff.mp (hquiet rfl))
  | failed hspace filter hplan => exact absurd hspace (Bool.eq_false_iff.mp (hquiet rfl))

namespace Visit

variable (v : Visit c)

/-- Nothing is told of a package whose check fails. -/
theorem packageEvents_of_error {f : Fault} (h : v.result = .error f) :
    packageEvents v.outcome = [] := by
  obtain ⟨p, n, mode, k, outcome, r, hv⟩ := v
  subst h
  cases hv
  rfl

/-- One event tells what became of a package whose check does not fail. -/
theorem packageEvents_of_ok {commands : List Command} (h : v.result = .ok commands) :
    ∃ e, v.Tells e ∧ packageEvents v.outcome = [e] := by
  obtain ⟨p, n, mode, k, outcome, r, hv⟩ := v
  cases hv with
  | unchecked mode hcheck => cases h
  | @low mode threshold usable pos hlow => exact ⟨_, .lowSpace pos hlow rfl rfl, rfl⟩
  | recorded hspace filter hr hplan => exact ⟨_, .commandsGenerated rfl, rfl⟩
  | unrecorded hspace filter hplan => exact ⟨_, .policyFailed rfl _, rfl⟩
  | compiled hspace filter hr hplan => exact ⟨_, .compiled rfl, by simp⟩
  | @failed k hspace filter plan f talk hplan => exact ⟨_, .failed rfl f.advice, by simp⟩

/-- The policy runs for a package exactly if there is space for it. -/
theorem performs_iff : v.Performs ↔ v.finding.sufficient = true := by
  constructor
  · -- where the policy runs it is consulted, and this is done only where there is space
    rintro ⟨filter, plan, hperforms⟩
    have houtcome : policyPart v.outcome = consultation v.package filter plan := by
      cases hmode : v.mode with
      | «export» =>
        rw [hmode] at hperforms
        obtain ⟨-, houtcome⟩ := hperforms
        rw [houtcome, policyPart_append]
        rfl
      | direct =>
        rw [hmode] at hperforms
        obtain ⟨talk, r, -, houtcome⟩ := hperforms
        rw [houtcome, policyPart_append, policyPart_underLock]
        rfl
    have hconsulted := v.handled.policyPart_eq
    split at hconsulted
    · assumption
    · rw [houtcome] at hconsulted
      cases hconsulted
  · intro hspace
    obtain ⟨p, n, mode, k, outcome, r, hv⟩ := v
    cases hv with
    | @unchecked mode k f hcheck => exact absurd hcheck (k.check_ne_error _ hspace f)
    | low mode hlow => exact absurd hlow (Finding.sufficient_iff.mp hspace)
    | @recorded k hspace filter plan r commands hr hplan =>
      refine ⟨filter, plan, ?_⟩
      simp [resultEvent, Visit.commands, Policy.Plan.kept, hplan, hr]
    | @unrecorded k hspace filter plan f commands hplan =>
      refine ⟨filter, plan, ?_⟩
      simp [resultEvent, Visit.commands, Policy.Plan.kept, hplan, PolicyResult.fault?]
    | @compiled k hspace filter plan r talk hr hplan =>
      refine ⟨filter, plan, talk, r, hplan, ?_⟩
      simp [resultEvent, hr]
    | @failed k hspace filter plan f talk hplan =>
      refine ⟨filter, plan, talk, .failed f, hplan, ?_⟩
      simp [resultEvent, PolicyResult.fault?]

theorem policyPart_exchanges : policyPart v.exchanges = policyPart v.outcome := by
  simp [exchanges]

theorem block : v.Block where
  fault_iff := v.handled.fault_iff
  unchecked f h := by rw [packageEvents_exchanges, v.packageEvents_of_error h]
  checked commands h := by
    obtain ⟨e, he, hevents⟩ := v.packageEvents_of_ok h
    exact ⟨e, he, by rw [packageEvents_exchanges, hevents]⟩
  storage := by
    rw [← Finding.exchanges_eq]
    simp [exchanges, v.handled.storagePart_eq]
  usable_iff := v.finding.usable?_isSome_iff
  performs_iff := v.performs_iff
  consults hspace := by
    have hconsulted := v.handled.policyPart_eq
    rwa [if_pos hspace, ← v.policyPart_exchanges] at hconsulted
  spares hspace := by
    have hspared := v.handled.policyPart_eq
    rwa [if_neg (Bool.eq_false_iff.mp hspace), ← v.policyPart_exchanges] at hspared
  quiet hquiet t ht := by
    rcases List.mem_cons.mp ht with rfl | ht
    · exact .inr (.inr ⟨_, rfl⟩)
    · rcases List.mem_append.mp ht with ht | ht
      · exact .inl (List.filter_eq_self.mp (v.finding.storagePart_exchanges _) t ht)
      · exact .inr (v.handled.told_of_quiet hquiet t ht)

/-- No event of the session is told of a package. -/
theorem packagePart_exchanges : packagePart v.exchanges = v.exchanges := by
  simp [exchanges, v.handled.packagePart_eq]

end Visit

/-! ## Traces -/

@[simp] theorem packagePart_visits (vs : List (Visit c)) :
    packagePart (vs.flatMap Visit.exchanges) = vs.flatMap Visit.exchanges := by
  induction vs with
  | nil => rfl
  | cons v vs ih => rw [List.flatMap_cons, packagePart_append, v.packagePart_exchanges, ih]

@[simp] theorem packagePart_exhaustion {α : Type} (before after : Session) (r : Except Fault α) :
    packagePart (exhaustion before after r) = [] := by
  cases r with
  | error f => rfl
  | ok a =>
    rw [exhaustion]
    split <;> rfl

/-- All that a call asks and tells of packages are its visits. -/
theorem Step.packagePart_eq {w w' : Work} {e : Entry} {vs : List (Visit c)}
    (h : Step c w e vs w') : packagePart e.exchanges = vs.flatMap Visit.exchanges := by
  cases h with
  | next h hmode => simp
  | compile v current total hremaining hmode => simp [v.packagePart_exchanges]
  | idle current total => rfl

variable {σ : Type} (answer : (q : Device.Request) → σ → Device.Reply q × σ)

/-- **Traces of packages.**  Whatever the device answers, and whichever calls that may take packages
are made in a session, in any order: the packages taken, each with the number of packages behind it,
are the first of the snapshot in its order, and the others are pending.  But for events of the
session, a call asks and tells exactly the blocks of the packages it takes, in the mode of the call:
that the package is taken, what the volume is asked, then what the policy is asked, which is once if
there is space and else nothing, and one event of what became of the package unless the check fails,
which the call then comes to.
The commands that packages are told to have generated are those handed out and those queued. -/
theorem history_visits (c : Coordinator) (takes : List Take) (x : σ) :
    let packages := c.registry.forDexopt
    let calls := Call.prepare :: takes.map .take
    ∃ (es : List (Entry × List (Visit c))) (w : Work),
      history answer c calls .new x =
        ⟨.prepare, [⟨.report (SessionEvent.prepared packages.length), ()⟩], .prepared (.ok ())⟩ ::
          es.map Prod.fst ∧
      (afterAll answer c calls .new x).1 = .prepared w ∧
      ((es.flatMap Prod.snd).map fun v => v.generated.1) ++ requests w.pending =
        requests packages ∧
      (es.flatMap Prod.snd).flatMap Visit.commands =
        es.flatMap (fun e => e.1.commands) ++ w.queue ∧
      ∀ e ∈ es, packagePart e.1.exchanges = e.2.flatMap Visit.exchanges ∧
        (∀ v ∈ e.2, v.Block ∧ ∃ t, e.1.call = .take t ∧ v.mode = t.mode) ∧
        ∀ f, e.1.answer.fault? = some f ↔ ∃ v ∈ e.2, v.result = .error f := by
  intro packages calls
  have hnone : (⟨packages, none, packages.length⟩ : Work).current ≠ some [] := nofun
  obtain ⟨es, w, hafter, hhistory, hsteps⟩ := history_steps answer takes hnone
    ((c.make .new .prepare).run answer x).2
  refine ⟨es, w, ?_, hafter, hsteps.requests_append, hsteps.commands_append, ?_⟩
  · rw [hhistory]
    rfl
  · intro e he
    obtain ⟨u, u', hstep⟩ := hsteps.of_mem he
    exact ⟨hstep.packagePart_eq, fun v hv => ⟨v.block, hstep.mode_eq hv⟩, hstep.fault_iff⟩

end Coordinator

end OtaCompile
