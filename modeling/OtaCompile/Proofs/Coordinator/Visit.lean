import OtaCompile.Proofs.Coordinator.Drain
import OtaCompile.Proofs.Policy

/-!
# Visits of packages

What a coordinator does about one package, from taking it to the last word on it.  Both modes tell
that the package is taken and check for space; a `Finding` is what the volume answers to a check,
which is made of nothing else (`Generator.checkSpace_eq`).  `Handled` says in six rules what may
follow on a finding: what the policy is asked, what it asks of the backend under the lock, what is
told of the package, and which commands the package yields.  A `Visit` is a package with all that,
and whatever the device answers, recording a package is a visit (`leads_recordPackage`) and so is
compiling one (`leads_compilePackage`).
-/

namespace OtaCompile

open Procedure

/-! ## Findings -/

/-- What a volume answers to a check for space. -/
inductive Finding
  /-- The threshold cannot be had. -/
  | unknown (f : PlatformFault)
  | noThreshold
  /-- Behind a threshold the free space is asked for. -/
  | measured (threshold : UInt64) (usable : Except PlatformFault UInt64) (pos : 0 < threshold)

namespace Finding

def exchanges (v : Path) : Finding → List Device.Exchange
  | unknown f => [⟨.threshold v, .error f⟩]
  | noThreshold => [⟨.threshold v, .ok 0⟩]
  | measured threshold usable _ => [⟨.threshold v, .ok threshold⟩, ⟨.usable v, usable⟩]

/-- Free space that cannot be had counts as none. -/
def bytes : Except PlatformFault UInt64 → UInt64
  | .ok n => n
  | .error _ => 0

/-- Whether there is space for a package. -/
def sufficient : Finding → Bool
  | measured threshold usable _ => threshold ≤ bytes usable
  | _ => false

theorem sufficient_iff {threshold : UInt64} {usable : Except PlatformFault UInt64}
    {pos : 0 < threshold} :
    (measured threshold usable pos).sufficient = true ↔ ¬ bytes usable < threshold :=
  decide_eq_true_iff.trans UInt64.not_lt.symm

/-- What the guard makes of the answers. -/
def check (v : Path) : Finding → Except Fault SpaceCheck
  | unknown f => .error (StorageFault.volumeQuery v.text f.message)
  | noThreshold => .error (SettingsFault.invalidThreshold v.text)
  | measured threshold usable _ => .ok (.ofBytes (bytes usable) threshold)

/-- What they make of a package: a fault, a skip, or nothing yet. -/
def verdict (v : Path) : Finding → Except Fault (Option Generation)
  | unknown f => .error (StorageFault.volumeQuery v.text f.message)
  | noThreshold => .error (SettingsFault.invalidThreshold v.text)
  | measured threshold usable _ =>
    .ok (if bytes usable < threshold then some (.lowSpace (bytes usable) threshold) else none)

end Finding

/-- Ask a volume for its threshold, and for its free space behind one that is not zero. -/
def Finding.ask (v : Path) : Procedure Finding := do
  match ← Dialogue.question (Device.Request.threshold v) with
  | .error f => return .unknown f
  | .ok threshold =>
    if pos : 0 < threshold then
      return .measured threshold (← Dialogue.question (Device.Request.usable v)) pos
    else return .noThreshold

/-- A check is made of what the volume answers. -/
theorem SpaceGuard.check_eq (g : SpaceGuard) :
    g.check = Finding.check g.dataDir <$> Finding.ask g.dataDir := by
  rw [SpaceGuard.check, Finding.ask, map_bind]
  refine congrArg _ (funext fun threshold => ?_)
  rcases threshold with f | threshold
  · rfl
  · by_cases pos : 0 < threshold
    · simp only [pos, if_neg (UInt64.pos_iff_ne_zero.mp pos), dif_pos]
      rw [map_bind]
      refine congrArg _ (funext fun usable => ?_)
      cases usable <;> rfl
    · obtain rfl := UInt64.le_zero_iff.mp (UInt64.not_lt.mp pos)
      rfl

theorem Generator.checkSpace_eq (g : Generator) :
    g.checkSpace = Finding.verdict g.guard.dataDir <$> Finding.ask g.guard.dataDir := by
  rw [Generator.checkSpace, SpaceGuard.check_eq, bind_map_left, map_eq_pure_bind]
  refine congrArg _ (funext fun k => ?_)
  cases k with
  | unknown f => rfl
  | noThreshold => rfl
  | measured threshold usable pos =>
    rw [Finding.check, Finding.verdict, SpaceCheck.ofBytes]
    by_cases hlow : Finding.bytes usable < threshold
    · rw [if_pos hlow, if_pos hlow]
    · rw [if_neg hlow, if_neg hlow]

theorem Finding.leads_ask {v : Path} {ts : List Device.Exchange} {k : Finding}
    (h : (Finding.ask v).Leads ts k) : ts = k.exchanges v := by
  obtain ⟨threshold, ts, rfl, hthreshold⟩ := Dialogue.leads_question.mp h
  rcases threshold with f | threshold
  · obtain ⟨rfl, rfl⟩ := Dialogue.leads_pure.mp hthreshold
    rfl
  · simp only at hthreshold
    split at hthreshold
    · obtain ⟨usable, ts, rfl, husable⟩ := Dialogue.leads_question.mp hthreshold
      obtain ⟨rfl, rfl⟩ := Dialogue.leads_pure.mp husable
      rfl
    · next pos =>
      obtain ⟨rfl, rfl⟩ := Dialogue.leads_pure.mp hthreshold
      obtain rfl := UInt64.le_zero_iff.mp (UInt64.not_lt.mp pos)
      rfl

theorem Generator.leads_checkSpace {g : Generator} {ts : List Device.Exchange}
    {r : Except Fault (Option Generation)} (h : g.checkSpace.Leads ts r) :
    ∃ k : Finding, ts = k.exchanges g.guard.dataDir ∧ r = k.verdict g.guard.dataDir := by
  rw [checkSpace_eq] at h
  obtain ⟨k, rfl, hask⟩ := Dialogue.leads_map.mp h
  exact ⟨k, Finding.leads_ask hask, rfl⟩

/-! ## Consulting the policy -/

/-- What the policy is asked about a package of an update, with its answers. -/
def consultation (p : Package) (filter : Compiler.Filter) (plan : Policy.Plan) :
    List Device.Exchange :=
  [⟨.policy (.filterFor .abOta), filter⟩, ⟨.policy (.perform p (.ota filter)), plan⟩]

/-- An exchange with the device's backend. -/
def Device.Exchange.ofBackend (t : (q : Backend.Request) × Backend.Reply q) : Device.Exchange :=
  ⟨.backend t.1, t.2⟩

/-- The policy is consulted, and has its talk with the backend, the install lock being held
meanwhile. -/
def underLock (p : Package) (filter : Compiler.Filter) (plan : Policy.Plan)
    (talk : List ((q : Backend.Request) × Backend.Reply q)) : List Device.Exchange :=
  ⟨.lock, ()⟩ :: (consultation p filter plan ++ talk.map Device.Exchange.ofBackend) ++
    [⟨.unlock, ()⟩]

def PolicyResult.fault? : PolicyResult → Option Fault
  | .failed f => some f
  | _ => none

/-- The commands that recording a plan keeps, none if it fails. -/
def Policy.Plan.kept (plan : Policy.Plan) : List Command :=
  match (Backend.recorded plan).1.fault? with
  | none => (Backend.recorded plan).2
  | some _ => []

theorem leads_planFor {p : Package} {ts : List Device.Exchange} {plan : Policy.Plan}
    (h : (planFor p).Leads ts plan) : ∃ filter, ts = consultation p filter plan := by
  rw [planFor_eq] at h
  obtain ⟨filter, ts', rfl, hperform⟩ := Dialogue.leads_ask.mp h
  obtain ⟨plan', ts', rfl, hend⟩ := Dialogue.leads_ask.mp hperform
  obtain ⟨rfl, rfl⟩ := Dialogue.leads_pure.mp hend
  exact ⟨filter, rfl⟩

theorem leads_onBackend {α : Type} {t : Backend.Talk α} {ts : List Device.Exchange} {a : α}
    (h : (onBackend t).Leads ts a) :
    ∃ talk, ts = talk.map Device.Exchange.ofBackend ∧ t.Leads talk a := by
  induction t generalizing ts with
  | done b =>
    obtain ⟨rfl, rfl⟩ := Dialogue.leads_pure.mp h
    exact ⟨[], rfl, .done _⟩
  | ask q next ih =>
    obtain ⟨r, ts, rfl, hnext⟩ := Dialogue.leads_ask.mp h
    obtain ⟨talk, rfl, htalk⟩ := ih r hnext
    exact ⟨⟨q, r⟩ :: talk, rfl, Dialogue.leads_ask.mpr ⟨r, talk, rfl, htalk⟩⟩

theorem leads_locked {α : Type} {p : Procedure α} {ts : List Device.Exchange} {a : α}
    (h : (locked p).Leads ts a) :
    ∃ ts', ts = ⟨.lock, ()⟩ :: ts' ++ [⟨.unlock, ()⟩] ∧ p.Leads ts' a := by
  obtain ⟨⟨⟩, ts, rfl, hbehind⟩ := Dialogue.leads_question.mp h
  obtain ⟨ts₁, b, ts₂, rfl, hp, hunlock⟩ := Dialogue.leads_bind.mp hbehind
  obtain ⟨⟨⟩, ts₃, rfl, hend⟩ := Dialogue.leads_question.mp hunlock
  obtain ⟨rfl, rfl⟩ := Dialogue.leads_pure.mp hend
  exact ⟨ts₁, rfl, hp⟩

namespace Coordinator

/-! ## Behind the check for space -/

/-- What recording a package does with the outcome of the check. -/
def recordChecked (p : Package) :
    Except Fault (Option Generation) → Procedure (Except Fault (List Command))
  | .error f => return .error f
  | .ok (some low) => do
    emit (recordEvent p [] low)
    return .ok []
  | .ok none => do
    let plan ← planFor p
    emit (recordEvent p (Generation.recorded plan).2 (Generation.recorded plan).1)
    return .ok (Generation.recorded plan).2

/-- What compiling a package does with the outcome of the check. -/
def compileChecked (p : Package) :
    Except Fault (Option Generation) → Procedure (Except Fault Unit)
  | .error f => return .error f
  | .ok (some low) => do
    emit (compileEvent p low)
    return .ok ()
  | .ok none => do
    let outcome ← locked (runPolicy p)
    emit (compileEvent p outcome)
    return .ok ()

theorem recordPackage_eq (c : Coordinator) (p : Package) (n : Nat) :
    c.recordPackage p n = emit (PackageEvent.processing p.name .export n) >>= fun _ =>
      c.generator.checkSpace >>= recordChecked p := by
  unfold recordPackage Generator.record
  refine congrArg _ (funext fun _ => ?_)
  rw [bind_assoc]
  refine congrArg _ (funext fun check => ?_)
  rcases check with f | _ | low
  · rfl
  · exact bind_assoc _ _ _
  · rfl

theorem compilePackage_eq (c : Coordinator) (p : Package) (n : Nat) :
    c.compilePackage p n = emit (PackageEvent.processing p.name .direct n) >>= fun _ =>
      c.generator.checkSpace >>= compileChecked p := by
  unfold compilePackage Coordinator.compile
  refine congrArg _ (funext fun _ => ?_)
  rw [bind_assoc]
  refine congrArg _ (funext fun check => ?_)
  rcases check with f | _ | low
  · rfl
  · exact bind_assoc _ _ _
  · rfl

/-! ## Visits -/

/-- An event told of a package. -/
def told (e : PackageEvent) : Device.Exchange := ⟨.report e, ()⟩

variable {c : Coordinator} {p : Package} {n : Nat} {k : Finding} {ts : List Device.Exchange}

/-- What follows on a finding in front of a package, and the commands that the package yields. -/
inductive Handled (c : Coordinator) (p : Package) :
    Mode → Finding → List Device.Exchange → Except Fault (List Command) → Prop
  /-- Nothing is told of a package whose check fails. -/
  | unchecked (mode : Mode) {k : Finding} {f : Fault}
    (hcheck : k.check c.generator.guard.dataDir = .error f) :
    Handled c p mode k [] (.error f)
  | low (mode : Mode) {threshold : UInt64} {usable : Except PlatformFault UInt64}
    {pos : 0 < threshold} (hlow : Finding.bytes usable < threshold) :
    Handled c p mode (.measured threshold usable pos)
      [told (.skipped p.name (.lowSpace (Finding.bytes usable) threshold))] (.ok [])
  /-- The commands are those that the plan has recorded. -/
  | recorded {k : Finding} (hspace : k.sufficient = true) (filter : Compiler.Filter)
    {plan : Policy.Plan} {r : PolicyResult} {commands : List Command} (hr : r.fault? = none)
    (hplan : Backend.recorded plan = (r, commands)) :
    Handled c p .export k
      (consultation p filter plan ++ [told (.commandsGenerated p.name commands.length)])
      (.ok commands)
  /-- What the plan has recorded before it fails is dropped. -/
  | unrecorded {k : Finding} (hspace : k.sufficient = true) (filter : Compiler.Filter)
    {plan : Policy.Plan} {f : Fault} {commands : List Command}
    (hplan : Backend.recorded plan = (.failed f, commands)) :
    Handled c p .export k
      (consultation p filter plan ++ [told (.skipped p.name (.policyFailed f.message))]) (.ok [])
  | compiled {k : Finding} (hspace : k.sufficient = true) (filter : Compiler.Filter)
    {plan : Policy.Plan} {r : PolicyResult}
    {talk : List ((q : Backend.Request) × Backend.Reply q)} (hr : r.fault? = none)
    (hplan : plan.Leads talk r) :
    Handled c p .direct k (underLock p filter plan talk ++ [told (.compiled p.name)]) (.ok [])
  | failed {k : Finding} (hspace : k.sufficient = true) (filter : Compiler.Filter)
    {plan : Policy.Plan} {f : Fault} {talk : List ((q : Backend.Request) × Backend.Reply q)}
    (hplan : plan.Leads talk (.failed f)) :
    Handled c p .direct k (underLock p filter plan talk ++ [told (.failed p.name f.advice)])
      (.ok [])

/-- A package that was taken, and what was done about it. -/
structure Visit (c : Coordinator) where
  package : Package
  /-- Packages behind it. -/
  remaining : Nat
  mode : Mode
  finding : Finding
  outcome : List Device.Exchange
  result : Except Fault (List Command)
  handled : Handled c package mode finding outcome result

/-- All that is asked and told for a package. -/
def Visit.exchanges (v : Visit c) : List Device.Exchange :=
  told (.processing v.package.name v.mode v.remaining) ::
    (v.finding.exchanges c.generator.guard.dataDir ++ v.outcome)

/-- Recording goes on from the check by one of the rules. -/
theorem leads_recordChecked {r : Except Fault (List Command)}
    (h : (recordChecked p (k.verdict c.generator.guard.dataDir)).Leads ts r) :
    Handled c p .export k ts r := by
  cases k with
  | unknown f =>
    obtain ⟨rfl, rfl⟩ := Dialogue.leads_pure.mp h
    exact .unchecked .export rfl
  | noThreshold =>
    obtain ⟨rfl, rfl⟩ := Dialogue.leads_pure.mp h
    exact .unchecked .export rfl
  | measured threshold usable pos =>
    rw [Finding.verdict] at h
    split at h
    · next hlow =>
      obtain ⟨rfl, rfl⟩ := leads_emit_pure h
      exact .low .export hlow
    · next hlow =>
      have hspace : (Finding.measured threshold usable pos).sufficient = true :=
        Finding.sufficient_iff.mpr hlow
      obtain ⟨ts₁, plan, ts₂, rfl, hconsult, htell⟩ := Dialogue.leads_bind.mp h
      obtain ⟨filter, rfl⟩ := leads_planFor hconsult
      obtain ⟨rfl, rfl⟩ := leads_emit_pure htell
      rcases hplan : Backend.recorded plan with ⟨_ | _ | f, commands⟩
      · rw [Generation.recorded, hplan]
        exact .recorded hspace filter rfl hplan
      · rw [Generation.recorded, hplan]
        exact .recorded hspace filter rfl hplan
      · rw [Generation.recorded, hplan]
        exact .unrecorded hspace filter hplan

theorem leads_recordPackage {r : Except Fault (List Command)}
    (h : (c.recordPackage p n).Leads ts r) :
    ∃ k outcome, ∃ hv : Handled c p .export k outcome r,
      ts = (⟨p, n, .export, k, outcome, r, hv⟩ : Visit c).exchanges := by
  rw [recordPackage_eq] at h
  obtain ⟨ts, rfl, hbehind⟩ := leads_emit h
  obtain ⟨ts₁, check, ts₂, rfl, hcheck, hchecked⟩ := Dialogue.leads_bind.mp hbehind
  obtain ⟨k, rfl, rfl⟩ := Generator.leads_checkSpace hcheck
  exact ⟨k, ts₂, leads_recordChecked hchecked, rfl⟩

/-- Compiling goes on from the check by one of the rules. -/
theorem leads_compileChecked {r : Except Fault Unit}
    (h : (compileChecked p (k.verdict c.generator.guard.dataDir)).Leads ts r) :
    ∃ r', r = r'.map (fun _ => ()) ∧ Handled c p .direct k ts r' := by
  cases k with
  | unknown f =>
    obtain ⟨rfl, rfl⟩ := Dialogue.leads_pure.mp h
    exact ⟨.error _, rfl, .unchecked .direct rfl⟩
  | noThreshold =>
    obtain ⟨rfl, rfl⟩ := Dialogue.leads_pure.mp h
    exact ⟨.error _, rfl, .unchecked .direct rfl⟩
  | measured threshold usable pos =>
    rw [Finding.verdict] at h
    split at h
    · next hlow =>
      obtain ⟨rfl, rfl⟩ := leads_emit_pure h
      exact ⟨.ok [], rfl, .low .direct hlow⟩
    · next hlow =>
      have hspace : (Finding.measured threshold usable pos).sufficient = true :=
        Finding.sufficient_iff.mpr hlow
      obtain ⟨ts₁, outcome, ts₂, rfl, hlocked, htell⟩ := Dialogue.leads_bind.mp h
      obtain ⟨ts', rfl, hrun⟩ := leads_locked hlocked
      obtain ⟨ts₃, plan, ts₄, rfl, hconsult, htalks⟩ := Dialogue.leads_bind.mp hrun
      obtain ⟨filter, rfl⟩ := leads_planFor hconsult
      obtain ⟨result, rfl, hresult⟩ := Dialogue.leads_map.mp htalks
      obtain ⟨talk, rfl, hplan⟩ := leads_onBackend hresult
      obtain ⟨rfl, rfl⟩ := leads_emit_pure htell
      refine ⟨.ok [], rfl, ?_⟩
      rcases result with _ | _ | f
      · exact .compiled hspace filter rfl hplan
      · exact .compiled hspace filter rfl hplan
      · exact .failed hspace filter hplan

theorem leads_compilePackage {r : Except Fault Unit} (h : (c.compilePackage p n).Leads ts r) :
    ∃ k outcome r', ∃ hv : Handled c p .direct k outcome r', r = r'.map (fun _ => ()) ∧
      ts = (⟨p, n, .direct, k, outcome, r', hv⟩ : Visit c).exchanges := by
  rw [compilePackage_eq] at h
  obtain ⟨ts, rfl, hbehind⟩ := leads_emit h
  obtain ⟨ts₁, check, ts₂, rfl, hcheck, hchecked⟩ := Dialogue.leads_bind.mp hbehind
  obtain ⟨k, rfl, rfl⟩ := Generator.leads_checkSpace hcheck
  obtain ⟨r', rfl, hv⟩ := leads_compileChecked hchecked
  exact ⟨k, ts₂, r', hv, rfl, rfl⟩

end Coordinator

end OtaCompile
