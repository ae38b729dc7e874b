import OtaCompile.Proofs.Coordinator.Protocol
import OtaCompile.Proofs.Coordinator.Trace
import OtaCompile.Proofs.Relocation

/-!
# The install lock

What may be asked depends on whether the install lock is held (`Device.Request.Permitted`), and this
depends on what was asked before (`Device.heldBehind`).  Exchanges that keep to it and leave the
lock free are `Guarded`; they can follow one another in any order, so it is enough to look at one
visit of a package and at one pass of the relocator.  A visit takes the lock at most once, and
exactly if the package is compiled and its check has found space (`Visit.locks_eq`).  No call but
the one that compiles asks for the lock or for the backend (`Made.lockless`).
-/

namespace OtaCompile

open Procedure Session

/-! ## Keeping to the lock -/

namespace Device

/-- Whether the lock is held behind a request. -/
def Request.holds (held : Bool) : Request → Bool
  | .lock => true
  | .unlock => false
  | _ => held

/-- The backend is for whoever holds the lock, volumes and the mover are for whoever does not; and
only a lock that is free is taken, only one that is held is given back.  The policy may be consulted
by either. -/
def Request.Permitted (held : Bool) : Request → Prop
  | .backend _ | .unlock => held = true
  | .threshold _ | .usable _ | .move _ _ _ | .lock => held = false
  | .policy _ | .report _ => True

/-- A request neither for the lock nor for the backend. -/
def Request.Lockless : Request → Prop
  | .backend _ | .lock | .unlock => False
  | _ => True

/-- Whether the lock is held behind the exchanges. -/
def heldBehind (held : Bool) (ts : List Exchange) : Bool :=
  ts.foldl (fun held t => t.1.holds held) held

/-- The exchanges keep to the lock, which is held or free in front of them, and leave it free. -/
inductive Guarded : Bool → List Exchange → Prop
  | nil : Guarded false []
  | cons {held : Bool} {t : Exchange} {ts : List Exchange} (ht : t.1.Permitted held)
    (hts : Guarded (t.1.holds held) ts) : Guarded held (t :: ts)

variable {held : Bool} {ts ts' : List Exchange}

theorem Request.Lockless.permitted {q : Request} (h : q.Lockless) : q.Permitted false := by
  cases q with
  | threshold v => rfl
  | usable v => rfl
  | move codePath isa dir => rfl
  | policy q => trivial
  | backend q => exact h.elim
  | lock => exact h.elim
  | unlock => exact h.elim
  | report e => trivial

theorem Request.Lockless.holds {q : Request} (h : q.Lockless) : q.holds held = held := by
  cases q with
  | lock => exact h.elim
  | unlock => exact h.elim
  | _ => rfl

theorem Request.lockless_of_isStorage {q : Request} (h : q.isStorage = true) : q.Lockless := by
  cases q with
  | backend q => cases h
  | lock => cases h
  | unlock => cases h
  | _ => trivial

theorem Request.lockless_of_isPolicy {q : Request} (h : q.isPolicy = true) : q.Lockless := by
  cases q with
  | policy q => trivial
  | _ => cases h

namespace Guarded

theorem append (h : Guarded held ts) (h' : Guarded false ts') : Guarded held (ts ++ ts') := by
  induction h with
  | nil => exact h'
  | cons ht hts ih => exact .cons ht ih

theorem flatMap {α : Type} {f : α → List Exchange} {as : List α}
    (h : ∀ a ∈ as, Guarded false (f a)) : Guarded false (as.flatMap f) := by
  induction as with
  | nil => exact .nil
  | cons a as ih =>
    rw [List.flatMap_cons]
    exact (h a List.mem_cons_self).append (ih fun b hb => h b (List.mem_cons_of_mem a hb))

theorem of_lockless (h : ∀ t ∈ ts, t.1.Lockless) : Guarded false ts := by
  induction ts with
  | nil => exact .nil
  | cons t ts ih =>
    have ht : t.1.Lockless := h t List.mem_cons_self
    refine .cons ht.permitted ?_
    rw [ht.holds]
    exact ih fun u hu => h u (List.mem_cons_of_mem t hu)

theorem underLock (p : Package) (filter : Compiler.Filter) (plan : Policy.Plan)
    (talk : List ((q : Backend.Request) × Backend.Reply q)) :
    Guarded false (underLock p filter plan talk) := by
  have hheld : Guarded true (talk.map Exchange.ofBackend ++ [⟨.unlock, ()⟩]) := by
    induction talk with
    | nil => exact .cons rfl .nil
    | cons t talk ih => exact .cons rfl ih
  have hconsulted : Guarded true
      (consultation p filter plan ++ (talk.map Exchange.ofBackend ++ [⟨.unlock, ()⟩])) :=
    .cons trivial (.cons trivial hheld)
  rw [OtaCompile.underLock, List.cons_append, List.append_assoc]
  exact .cons rfl hconsulted

/-- Every request is permitted where it is made. -/
theorem permitted (h : Guarded held ts) {ts₁ ts₂ : List Exchange} {t : Exchange}
    (hts : ts = ts₁ ++ t :: ts₂) : t.1.Permitted (heldBehind held ts₁) := by
  induction h generalizing ts₁ with
  | nil => cases ts₁ <;> cases hts
  | cons hu hus ih =>
    cases ts₁ with
    | nil =>
      cases hts
      exact hu
    | cons u us =>
      obtain ⟨rfl, rfl⟩ := List.cons.inj hts
      exact ih rfl

theorem released (h : Guarded held ts) : heldBehind held ts = false := by
  induction h with
  | nil => rfl
  | cons ht hts ih => exact ih

end Guarded

/-- How often the lock is taken. -/
def locks (ts : List Exchange) : Nat := (ts.map Sigma.fst).count Request.lock

theorem locks_append (ts ts' : List Exchange) : locks (ts ++ ts') = locks ts + locks ts' := by
  rw [locks, List.map_append, List.count_append]
  rfl

theorem locks_of_lockless (h : ∀ t ∈ ts, t.1.Lockless) : locks ts = 0 := by
  refine List.count_eq_zero.mpr fun hlock => ?_
  obtain ⟨t, ht, heq⟩ := List.mem_map.mp hlock
  have hlockless := h t ht
  rw [heq] at hlockless
  exact hlockless

theorem lockless_consultation (p : Package) (filter : Compiler.Filter) (plan : Policy.Plan) :
    ∀ t ∈ consultation p filter plan, t.1.Lockless :=
  List.forall_mem_cons.mpr ⟨trivial, List.forall_mem_singleton.mpr trivial⟩

theorem locks_underLock (p : Package) (filter : Compiler.Filter) (plan : Policy.Plan)
    (talk : List ((q : Backend.Request) × Backend.Reply q)) :
    locks (underLock p filter plan talk) = 1 := by
  have htalk : Request.lock ∉ (talk.map Exchange.ofBackend).map Sigma.fst := by
    simp [Exchange.ofBackend]
  rw [underLock, locks_append, ← List.singleton_append, locks_append, locks_append,
    locks_of_lockless (lockless_consultation p filter plan), locks, locks, locks,
    List.count_eq_zero.mpr htalk]
  rfl

end Device

open Device

/-! ## Passes of the relocator -/

theorem Relocator.lockless_of_leads {r : Relocator} {ps : List Package}
    {ts : List Device.Exchange} {report : RelocationReport}
    (h : (r.relocate ps).Leads ts report) : ∀ t ∈ ts, t.1.Lockless := by
  obtain ⟨vs, -, rfl, -⟩ := leads_relocate h
  have htell : ∀ es : List RelocationEvent, ∀ t ∈ es.map tell, t.1.Lockless :=
    fun es => List.forall_mem_map.mpr fun e _ => trivial
  have hvisit : ∀ v ∈ vs, ∀ t ∈ v.exchanges, t.1.Lockless := by
    intro v _ t ht
    rcases List.mem_append.mp ht with ht | ht
    · exact htell _ t ht
    · obtain ⟨⟨m, a⟩, -, ht⟩ := List.mem_flatMap.mp ht
      rcases List.mem_cons.mp ht with rfl | ht
      · trivial
      · exact htell _ t ht
  intro t ht
  rcases List.mem_append.mp ht with ht | ht
  · rcases List.mem_cons.mp ht with rfl | ht
    · trivial
    · obtain ⟨v, hv, ht⟩ := List.mem_flatMap.mp ht
      exact hvisit v hv t ht
  · rw [List.mem_singleton.mp ht]
    trivial

/-! ## Visits -/

theorem Finding.lockless_exchanges (k : Finding) (d : Path) :
    ∀ t ∈ k.exchanges d, t.1.Lockless := by
  intro t ht
  have hstorage := List.filter_eq_self.mp (k.storagePart_exchanges d) t ht
  exact Request.lockless_of_isStorage hstorage

/-- A check finds space if the guard says so, and not if it fails or finds the volume low. -/
theorem Finding.sufficient_iff_check (k : Finding) (d : Path) :
    k.sufficient = true ↔ ∃ usable threshold, k.check d = .ok (.sufficient usable threshold) := by
  cases k with
  | unknown f => exact iff_of_false nofun fun ⟨_, _, h⟩ => nomatch h
  | noThreshold => exact iff_of_false nofun fun ⟨_, _, h⟩ => nomatch h
  | measured threshold usable pos =>
    rw [Finding.sufficient_iff, Finding.check, SpaceCheck.ofBytes]
    by_cases hlow : Finding.bytes usable < threshold
    · simp [hlow]
    · simp [hlow]

namespace Coordinator

variable {c : Coordinator}

section Handled

variable {p : Package} {mode : Mode} {k : Finding} {outcome : List Device.Exchange}
  {r : Except Fault (List Command)}

theorem lockless_told (e : PackageEvent) : ∀ t ∈ [told e], t.1.Lockless :=
  List.forall_mem_singleton.mpr trivial

theorem lockless_consulted (filter : Compiler.Filter) (plan : Policy.Plan) (e : PackageEvent) :
    ∀ t ∈ consultation p filter plan ++ [told e], t.1.Lockless :=
  List.forall_mem_append.mpr ⟨lockless_consultation p filter plan, lockless_told e⟩

theorem Handled.guarded (h : Handled c p mode k outcome r) : Guarded false outcome := by
  cases h with
  | unchecked mode hcheck => exact .nil
  | low mode hlow => exact .of_lockless (lockless_told _)
  | recorded hspace filter hr hplan => exact .of_lockless (lockless_consulted _ _ _)
  | unrecorded hspace filter hplan => exact .of_lockless (lockless_consulted _ _ _)
  | compiled hspace filter hr hplan =>
    exact (Guarded.underLock ..).append (.of_lockless (lockless_told _))
  | failed hspace filter hplan =>
    exact (Guarded.underLock ..).append (.of_lockless (lockless_told _))

/-- The lock is taken once to compile where there is space, and else never. -/
theorem Handled.locks_eq (h : Handled c p mode k outcome r) :
    locks outcome = if mode = .direct ∧ k.sufficient = true then 1 else 0 := by
  cases h with
  | @unchecked mode k f hcheck =>
    rw [if_neg fun hspace => k.check_ne_error _ hspace.2 f hcheck]
    rfl
  | low mode hlow =>
    rw [if_neg fun hspace => Finding.sufficient_iff.mp hspace.2 hlow]
    exact locks_of_lockless (lockless_told _)
  | recorded hspace filter hr hplan => exact locks_of_lockless (lockless_consulted _ _ _)
  | unrecorded hspace filter hplan => exact locks_of_lockless (lockless_consulted _ _ _)
  | compiled hspace filter hr hplan =>
    rw [if_pos ⟨rfl, hspace⟩, locks_append, locks_underLock, locks_of_lockless (lockless_told _)]
  | failed hspace filter hplan =>
    rw [if_pos ⟨rfl, hspace⟩, locks_append, locks_underLock, locks_of_lockless (lockless_told _)]

end Handled

namespace Visit

variable (v : Visit c)

/-- In front of what is done about a package, nothing is asked of the lock. -/
theorem lockless_check : ∀ t ∈ told (.processing v.package.name v.mode v.remaining) ::
    v.finding.exchanges c.generator.guard.dataDir, t.1.Lockless :=
  List.forall_mem_cons.mpr ⟨trivial, v.finding.lockless_exchanges _⟩

theorem guarded : Guarded false v.exchanges :=
  (Guarded.of_lockless v.lockless_check).append v.handled.guarded

theorem locks_eq :
    locks v.exchanges = if v.mode = .direct ∧ v.finding.sufficient = true then 1 else 0 := by
  have hcheck := locks_of_lockless v.lockless_check
  rw [← v.handled.locks_eq, exchanges, ← List.cons_append, locks_append, hcheck, Nat.zero_add]

theorem locks_le_one : locks v.exchanges ≤ 1 := by
  rw [v.locks_eq]
  split <;> omega

/-- The lock is taken if the package is compiled and the guard finds space for it, and not if its
check fails or finds the volume low. -/
theorem locks_eq_one_iff : locks v.exchanges = 1 ↔ v.mode = .direct ∧
    ∃ usable threshold,
      v.finding.check c.generator.guard.dataDir = .ok (.sufficient usable threshold) := by
  rw [v.locks_eq, ← v.finding.sufficient_iff_check]
  split
  · next h => exact iff_of_true rfl h
  · next h => exact iff_of_false (by omega) h

/-- What a check is made of is all that volumes are asked. -/
theorem storagePart_eq :
    storagePart v.exchanges = v.finding.exchanges c.generator.guard.dataDir := by
  rw [v.block.storage, Finding.exchanges_eq]

theorem lockless (hmode : v.mode = .export) : ∀ t ∈ v.exchanges, t.1.Lockless := by
  intro t ht
  have hquiet : v.mode = .direct → v.finding.sufficient = false := by
    intro hdirect
    rw [hmode] at hdirect
    cases hdirect
  rcases v.block.quiet hquiet t ht with hstorage | hconsulted | ⟨e, rfl⟩
  · exact Request.lockless_of_isStorage hstorage
  · exact Request.lockless_of_isPolicy hconsulted
  · trivial

end Visit

/-! ## Calls -/

variable {w w' : Work} {e : Entry} {vs : List (Visit c)} {s s' : Session}

theorem lockless_exhaustion {α : Type} (before after : Session) (r : Except Fault α) :
    ∀ t ∈ exhaustion before after r, t.1.Lockless := by
  cases r with
  | error f => exact List.forall_mem_nil _
  | ok a =>
    rw [exhaustion]
    split
    · exact List.forall_mem_singleton.mpr trivial
    · exact List.forall_mem_nil _

theorem Step.guarded (h : Step c w e vs w') : Guarded false e.exchanges := by
  cases h with
  | next h hmode =>
    have hvisits : Guarded false (vs.flatMap Visit.exchanges) := .flatMap fun v _ => v.guarded
    exact hvisits.append (.of_lockless (lockless_exhaustion _ _ _))
  | compile v current total hremaining hmode =>
    exact v.guarded.append (.of_lockless (lockless_exhaustion _ _ _))
  | idle current total => exact .nil

theorem Step.lockless (h : Step c w e vs w') (he : e.call ≠ .take .nextPackage) :
    ∀ t ∈ e.exchanges, t.1.Lockless := by
  cases h with
  | next h hmode =>
    intro t ht
    rcases List.mem_append.mp ht with ht | ht
    · obtain ⟨v, hv, ht⟩ := List.mem_flatMap.mp ht
      exact v.lockless (hmode v hv) t ht
    · exact lockless_exhaustion _ _ _ t ht
  | compile v current total hremaining hmode => exact absurd rfl he
  | idle current total => exact absurd rfl he

theorem Made.lockless (h : Made c s e s') (he : e.call ≠ .take .nextPackage) :
    ∀ t ∈ e.exchanges, t.1.Lockless := by
  cases h with
  | misused h ha => exact List.forall_mem_nil _
  | prepared => exact List.forall_mem_singleton.mpr trivial
  | cleanedUp s => exact List.forall_mem_singleton.mpr trivial
  | isDone w => exact List.forall_mem_nil _
  | progress w => exact List.forall_mem_nil _
  | status s => exact List.forall_mem_nil _
  | relocated h => exact Relocator.lockless_of_leads h
  | taken h => exact h.lockless he

/-- Every call keeps to the lock and leaves it free. -/
theorem Made.guarded (h : Made c s e s') : Guarded false e.exchanges := by
  by_cases he : e.call = .take .nextPackage
  · cases h with
    | misused h ha => exact .nil
    | prepared => cases he
    | cleanedUp s => cases he
    | isDone w => cases he
    | progress w => cases he
    | status s => cases he
    | relocated h => cases he
    | taken h => exact h.guarded
  · exact .of_lockless (h.lockless he)

/-- What calls other than `cleanup` do about the packages of a prepared session. -/
theorem Made.visits (h : Made c (.prepared w) e s') (he : e.call ≠ .cleanup) :
    ∃ (vs : List (Visit c)) (w' : Work), s' = .prepared w' ∧
      (vs.map fun v => v.generated.1) ++ requests w'.pending = requests w.pending ∧
      packagePart e.exchanges = vs.flatMap Visit.exchanges := by
  rcases h.step_or_nothing he with ⟨t, vs, w', -, rfl, hstep⟩ | ⟨hexchanges, -, rfl⟩
  · exact ⟨vs, w', rfl, hstep.requests_append, hstep.packagePart_eq⟩
  · refine ⟨[], w, rfl, rfl, ?_⟩
    rw [hexchanges]
    rfl

/-! ## Runs -/

variable {σ : Type} (answer : (q : Device.Request) → σ → Device.Reply q × σ)

/-- The calls of a session visit its packages one after the other, each at most once. -/
theorem session_visits {ks : List Call} (hks : .cleanup ∉ ks) (hw : (Session.prepared w).Settled)
    (x : σ) :
    ∃ (es : List (Entry × List (Visit c))) (w' : Work),
      es.map Prod.fst = history answer c ks (.prepared w) x ∧
      ((es.flatMap Prod.snd).map fun v => v.generated.1) ++ requests w'.pending =
        requests w.pending ∧
      ∀ e ∈ es, packagePart e.1.exchanges = e.2.flatMap Visit.exchanges := by
  induction ks generalizing w x with
  | nil => exact ⟨[], w, rfl, rfl, List.forall_mem_nil _⟩
  | cons k ks ih =>
    rw [List.mem_cons, not_or] at hks
    have hmade := made (c := c) answer k hw x
    obtain ⟨vs, w₁, hafter, hrequests, hpart⟩ := hmade.visits (Ne.symm hks.1)
    have hw₁ := hmade.settled hw
    rw [hafter] at hw₁
    obtain ⟨es, w', hhistory, hbehind, hparts⟩ :=
      ih hks.2 hw₁ ((c.make (.prepared w) k).run answer x).2
    refine ⟨(_, vs) :: es, w', ?_, ?_, List.forall_mem_cons.mpr ⟨hpart, hparts⟩⟩
    · rw [List.map_cons, hhistory, history, hafter]
    · rw [List.flatMap_cons, List.map_append, List.append_assoc, hbehind, hrequests]

/-- **The install lock.**  A coordinator starts, and then any calls are made.  Whatever the policy
does and the device answers: every request is permitted where it is made, so the backend is called
while the lock is held, and volumes and the mover are asked while it is not; behind every call the
lock is free; and neither the start nor any call but the one that compiles asks for the lock or for
the backend.  In every session, the packages are visited one after the other, each at most once, and
all that is asked of the lock is asked by visits; a visit takes the lock at most once, and exactly
if the package is compiled and its check, made of what the volume has answered, finds space. -/
theorem install_lock_discipline (c : Coordinator) (ks : List Call) (x : σ) :
    let started := c.start.run answer x
    let es := history answer started.1 ks .new started.2
    let behind := afterAll answer started.1 ks .new started.2
    let trace := c.start.transcript answer x ++ es.flatMap Entry.exchanges
    let dataDir := started.1.generator.guard.dataDir
    (∀ ts₁ t ts₂, trace = ts₁ ++ t :: ts₂ → t.1.Permitted (heldBehind false ts₁)) ∧
    heldBehind false trace = false ∧
    (∀ t ∈ c.start.transcript answer x, t.1.Lockless) ∧
    (∀ e ∈ es, e.call ≠ .take .nextPackage → ∀ t ∈ e.exchanges, t.1.Lockless) ∧
    (behind.1 = .idle → ∀ later : List Call, .cleanup ∉ later →
      ∃ (es : List (Entry × List (Visit started.1))) (w : Work),
        es.map Prod.fst = history answer started.1 (.prepare :: later) behind.1 behind.2 ∧
        ((es.flatMap Prod.snd).map fun v => v.generated.1) ++ requests w.pending =
          requests c.registry.forDexopt ∧
        ∀ e ∈ es, packagePart e.1.exchanges = e.2.flatMap Visit.exchanges ∧
          ∀ v ∈ e.2, storagePart v.exchanges = v.finding.exchanges dataDir ∧
            locks v.exchanges ≤ 1 ∧
            (locks v.exchanges = 1 ↔ v.mode = .direct ∧ ∃ usable threshold,
              v.finding.check dataDir = .ok (.sufficient usable threshold))) := by
  intro started es behind trace dataDir
  have hnew : Session.new.Settled := trivial
  have hmade := exists_made (c := started.1) answer ks hnew started.2
  have hstart : ∀ t ∈ c.start.transcript answer x, t.1.Lockless := by
    obtain ⟨report, -, hleads⟩ := Dialogue.leads_map.mp (Dialogue.leads_run answer c.start x)
    exact Relocator.lockless_of_leads hleads
  have htrace : Guarded false trace := by
    refine (Guarded.of_lockless hstart).append (.flatMap ?_)
    intro e he
    obtain ⟨s₁, s₂, h⟩ := hmade e he
    exact h.guarded
  refine ⟨fun ts₁ t ts₂ hts => htrace.permitted hts, htrace.released, hstart, ?_, ?_⟩
  · intro e he hcall
    obtain ⟨s₁, s₂, h⟩ := hmade e he
    exact h.lockless hcall
  · intro hidle later hlater
    have hregistry : started.1.registry = c.registry := by
      show (c.start.run answer x).1.registry = c.registry
      rw [start, Dialogue.run_bind]
      rfl
    have hbegun : (Session.begun started.1.registry.forDexopt).Settled := nofun
    obtain ⟨es, w, hhistory, hrequests, hparts⟩ := session_visits (c := started.1) answer hlater
      hbegun ((started.1.make .idle .prepare).run answer behind.2).2
    rw [hidle, ← hregistry]
    refine ⟨(⟨.prepare, [⟨.report (SessionEvent.prepared started.1.registry.forDexopt.length), ()⟩],
      .prepared (.ok ())⟩, []) :: es, w, ?_, hrequests, ?_⟩
    · rw [List.map_cons, hhistory]
      rfl
    · have hvisit : ∀ v : Visit started.1, storagePart v.exchanges = v.finding.exchanges dataDir ∧
          locks v.exchanges ≤ 1 ∧ (locks v.exchanges = 1 ↔ v.mode = .direct ∧
            ∃ usable threshold, v.finding.check dataDir = .ok (.sufficient usable threshold)) :=
        fun v => ⟨v.storagePart_eq, v.locks_le_one, v.locks_eq_one_iff⟩
      exact List.forall_mem_cons.mpr ⟨⟨rfl, List.forall_mem_nil _⟩,
        fun e he => ⟨hparts e he, fun v _ => hvisit v⟩⟩

end Coordinator

end OtaCompile
