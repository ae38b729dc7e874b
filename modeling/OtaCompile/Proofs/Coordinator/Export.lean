import OtaCompile.Proofs.Coordinator.Drain
import OtaCompile.Proofs.Coordinator.Visit

/-!
# What is handed out

With any policy and any storage, draining a session hands out for each package its contribution: the
commands of all invocations that the policy has executed by the recording backend, if the check of
the package finds space and the policy does not fail, and else none (`Coordinator.contribution`).
What the checks find is a matter of the storage alone (`Device.Storage.findings`), which is asked in
the order of the packages, and is asked for free space only behind a threshold that is not zero.
So no package has a say in what another contributes (`export_hands_out`).
-/

namespace OtaCompile

open Procedure

variable {α σ β : Type}

/-! ## What is recorded -/

namespace Backend

/-- The invocations that a talk has executed by a recording backend. -/
def executed (t : Talk α) : List Invocation :=
  (t.asked record []).filterMap Request.invocation?

theorem run_record (t : Talk α) (taken : List Command) :
    (t.run record taken).2 =
      taken ++ ((t.asked record taken).filterMap Request.invocation?).map Invocation.command := by
  induction t generalizing taken with
  | done a => exact (List.append_nil _).symm
  | ask q next ih =>
    rw [Dialogue.run_ask, Dialogue.asked_ask, ih]
    cases q with
    | execute i => simp [record, Request.invocation?]
    | waitForConnection => rfl
    | disconnect => rfl
    | mergeProfiles uid package => rfl
    | dumpProfiles gid package codePaths => rfl

/-- The commands taken down are those of the invocations executed, in order. -/
theorem recorded_snd (t : Talk α) : (recorded t).2 = (executed t).map Invocation.command := by
  rw [recorded, run_record, List.nil_append, executed]

end Backend

/-! ## What the storage says -/

namespace Device.Storage

variable (storage : Storage σ) (v : Path)

/-- What a check for space finds, and the storage behind it. -/
def finding (x : σ) : Finding × σ :=
  match storage.threshold v x with
  | (.error f, x) => (.unknown f, x)
  | (.ok threshold, x) =>
    if pos : 0 < threshold then
      (.measured threshold (storage.usable v x).1 pos, (storage.usable v x).2)
    else (.noThreshold, x)

/-- What checks find one after the other. -/
def findings : Nat → σ → List Finding
  | 0, _ => []
  | n + 1, x => (storage.finding v x).1 :: findings n (storage.finding v x).2

@[simp] theorem length_findings (n : Nat) (x : σ) : (storage.findings v n x).length = n := by
  induction n generalizing x with
  | zero => rfl
  | succ n ih => exact congrArg (· + 1) (ih _)

end Device.Storage

theorem Finding.run_ask (storage : Device.Storage σ) (v : Path) (x : σ) :
    (Finding.ask v).run storage.alone x = storage.finding v x := by
  simp only [Finding.ask, Dialogue.question_bind, Dialogue.run_ask, Device.Storage.alone,
    Device.Storage.finding]
  rcases storage.threshold v x with ⟨f | threshold, x⟩
  · rfl
  · simp only
    split <;> rfl

theorem Generator.run_checkSpace (g : Generator) (storage : Device.Storage σ) (x : σ) :
    g.checkSpace.run storage.alone x =
      ((storage.finding g.guard.dataDir x).1.verdict g.guard.dataDir,
        (storage.finding g.guard.dataDir x).2) := by
  rw [checkSpace_eq, Dialogue.run_map, Finding.run_ask]

/-! ## Contributions -/

namespace Coordinator

variable (c : Coordinator) (storage : Device.Storage σ) (policy : Policy)
  (rest : (q : Device.Request) → β → Device.Reply q × β)

/-- The commands that a package contributes, whose check finds `k`: those of the invocations that
the policy has executed, if there is space and the policy does not fail. -/
def contribution (p : Package) (k : Finding) : List Command :=
  if k.sufficient = true ∧ (Backend.recorded (policy.planFor p)).1.fault? = none then
    (Backend.executed (policy.planFor p)).map Invocation.command
  else []

/-- What a package whose check finds `k` is recorded as. -/
def contributed (p : Package) (k : Finding) : Except Fault (List Command) :=
  (k.check c.generator.guard.dataDir).map fun _ => contribution policy p k

variable {c policy} {p : Package} {k : Finding} {outcome : List Device.Exchange}
  {r : Except Fault (List Command)}

/-- Where there is space, a package contributes what recording its plan keeps. -/
theorem contributed_of_sufficient (hspace : k.sufficient = true) :
    c.contributed policy p k = .ok (policy.planFor p).kept := by
  have hkept : contribution policy p k = (policy.planFor p).kept := by
    rw [contribution, Policy.Plan.kept, ← Backend.recorded_snd]
    cases (Backend.recorded (policy.planFor p)).1.fault? with
    | none => exact if_pos ⟨hspace, rfl⟩
    | some f => exact if_neg fun h => nomatch h.2
  cases k with
  | unknown f => cases hspace
  | noThreshold => cases hspace
  | measured threshold usable pos => exact congrArg Except.ok hkept

/-! ## Packages after one another -/

/-- What is recorded is what the plan keeps. -/
theorem recorded_snd_eq_kept (plan : Policy.Plan) : (Generation.recorded plan).2 = plan.kept := by
  unfold Generation.recorded Policy.Plan.kept
  rcases Backend.recorded plan with ⟨_ | _ | f, commands⟩ <;> rfl

/-- Behind the check the package comes to its contribution, and the device is not changed. -/
theorem run_recordChecked (k : Finding) (z : σ × β) :
    (recordChecked p (k.verdict c.generator.guard.dataDir)).run
      (Device.serving storage policy rest) z = (c.contributed policy p k, z) := by
  cases k with
  | unknown f => rfl
  | noThreshold => rfl
  | measured threshold usable pos =>
    rw [Finding.verdict]
    split
    · next hlow =>
      rw [contributed, contribution, if_neg fun h => Finding.sufficient_iff.mp h.1 hlow]
      rfl
    · next hlow =>
      rw [contributed_of_sufficient (Finding.sufficient_iff.mpr hlow), recordChecked,
        Dialogue.run_bind, run_planFor (Device.serving_policy storage policy rest),
        recorded_snd_eq_kept]
      rfl

theorem run_recordPackage (n : Nat) (x : σ) (y : β) :
    let found := storage.finding c.generator.guard.dataDir x
    (c.recordPackage p n).run (Device.serving storage policy rest) (x, y) =
      (c.contributed policy p found.1, found.2, y) := by
  intro found
  rw [recordPackage_eq, emit, Dialogue.question_bind, Dialogue.run_ask, Device.serving_report,
    Dialogue.run_bind, Device.run_serving storage policy rest c.generator.within_checkSpace,
    Generator.run_checkSpace, run_recordChecked]

variable (policy) in
/-- Packages are recorded as what they contribute, each with what its own check finds. -/
theorem run_each (packages : List Package) (x : σ) (y : β) :
    let findings := storage.findings c.generator.guard.dataDir packages.length x
    ((each c.recordPackage packages).run (Device.serving storage policy rest) (x, y)).1.map
      (·.result) = (packages.zip findings).map fun pk => c.contributed policy pk.1 pk.2 := by
  intro findings
  induction packages generalizing x with
  | nil => rfl
  | cons p packages ih =>
    simp only [each, Dialogue.run_bind, Dialogue.run_map, run_recordPackage, List.map_cons]
    exact congrArg (_ :: ·) (ih _)

/-- What is handed out for a package whose check finds `k`: what it contributes, or its fault. -/
def results (c : Coordinator) (policy : Policy) (p : Package) (k : Finding) :
    List (Except Fault NextCommand) :=
  match c.contributed policy p k with
  | .ok commands => commands.map fun command => .ok (.command command)
  | .error f => [.error f]

theorem commands_of_contributed {r : Returned (List Command)}
    (h : r.result = c.contributed policy p k) :
    r.commands = contribution policy p k := by
  rw [Returned.commands, h, contributed]
  cases k with
  | unknown f => rfl
  | noThreshold => rfl
  | measured threshold usable pos => rfl

theorem results_of_contributed {r : Returned (List Command)}
    (h : r.result = c.contributed policy p k) :
    (handOut r).map (·.result) = c.results policy p k := by
  rw [handOut, results, ← h]
  cases r.result with
  | error f => rfl
  | ok commands => exact List.map_map ..

/-- What is seen of each package that was recorded is seen of what it contributes. -/
theorem flatMap_of_map_result {γ : Type} {rs : List (Returned (List Command))}
    {pks : List (Package × Finding)} (h : rs.map (·.result) = pks.map fun pk =>
      c.contributed policy pk.1 pk.2) {f : Returned (List Command) → List γ}
    {g : Package → Finding → List γ}
    (hf : ∀ r p k, r.result = c.contributed policy p k → f r = g p k) :
    rs.flatMap f = pks.flatMap fun pk => g pk.1 pk.2 := by
  induction rs generalizing pks with
  | nil =>
    rw [List.map_eq_nil_iff.mp h.symm]
    rfl
  | cons r rs ih =>
    obtain ⟨pk, pks, rfl, hpk, hpks⟩ := List.map_eq_cons_iff.mp h.symm
    rw [List.flatMap_cons, List.flatMap_cons, hf r pk.1 pk.2 hpk.symm, ih hpks.symm]

/-- **What is handed out.**  With any policy, whatever the storage says, draining a session hands
out the contributions of its packages in their order, each with what its own check finds in the
answers of the storage: the commands of all invocations that the policy has executed, in order, if
there is space and the policy does not fail, and else none.  Beyond that a package whose check
fails comes to its fault, and then there is nothing to do, and the session is exhausted. -/
theorem export_hands_out (c : Coordinator) (x : σ) (y : β) :
    let packages := c.registry.forDexopt
    let findings := storage.findings c.generator.guard.dataDir packages.length x
    let exported := (c.exporting.run (Device.serving storage policy rest) (x, y)).1
    findings.length = packages.length ∧
    exported.1.flatMap Returned.command =
      (packages.zip findings).flatMap (fun pk => contribution policy pk.1 pk.2) ∧
    exported.1.map (·.result) =
      (packages.zip findings).flatMap (fun pk => c.results policy pk.1 pk.2) ++ [.ok .nothingToDo] ∧
    exported.2.lifecycle = .exhausted := by
  intro packages findings exported
  have hexporting := (exporting_alike (Device.deaf_serving storage policy rest) c (x, y)).1
  rw [Dialogue.run_map] at hexporting
  have heach := run_each (c := c) storage policy rest packages x y
  simp only [exported, hexporting]
  refine ⟨storage.length_findings _ _ _, ?_, ?_, rfl⟩
  · exact (flatMap_drained handOut_commands rfl _).trans
      (flatMap_of_map_result heach fun r p k h => commands_of_contributed h)
  · rw [drained, List.map_append, List.map_flatMap]
    exact congrArg (· ++ _) (flatMap_of_map_result heach fun r p k h => results_of_contributed h)

end Coordinator

end OtaCompile
