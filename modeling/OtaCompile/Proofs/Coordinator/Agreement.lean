import OtaCompile.Proofs.Coordinator.Visit

/-!
# Handing out and compiling agree

With the standard policy, a coordinator hands out for other devices what it would have compiled on
its own.  Both modes check for space in front of each package, and only the storage has a say in
that, so the checks of both come out the same (`package_agrees`, and `each_agrees` for packages
after one another).  `export_agrees_direct` says so of a whole session, from `prepare` on.
-/

namespace OtaCompile

open Procedure

/-! ## What is seen of a session -/

/-- What is told of packages in either mode. -/
inductive Notice
  | taken (package : String) (remaining : Nat)
  | low (package : String) (usable threshold : UInt64)
deriving DecidableEq, Repr

def notice? : Device.Request → Option Notice
  | .report (.package (.processing package _ remaining)) => some (.taken package remaining)
  | .report (.package (.skipped package (.lowSpace usable threshold))) =>
    some (.low package usable threshold)
  | _ => none

def executed? : Device.Request → Option Invocation
  | .backend (.execute i) => some i
  | _ => none

namespace Coordinator

/-! ## Agreement of packages -/

/-- What recording came to and asked, and what compiling came to and asked, are the same. -/
structure Agree (rs : List (Returned (List Command))) (asked : List Device.Request)
    (rs' : List (Returned Unit)) (asked' : List Device.Request) : Prop where
  commands : rs.flatMap Returned.commands = (asked'.filterMap executed?).map Invocation.command
  notices : asked.filterMap notice? = asked'.filterMap notice?
  faults : rs.flatMap Returned.faults = rs'.flatMap Returned.faults

theorem Agree.append {rs₁ rs₂ : List (Returned (List Command))} {rs₁' rs₂' : List (Returned Unit)}
    {asked₁ asked₂ asked₁' asked₂' : List Device.Request} (h₁ : Agree rs₁ asked₁ rs₁' asked₁')
    (h₂ : Agree rs₂ asked₂ rs₂' asked₂') :
    Agree (rs₁ ++ rs₂) (asked₁ ++ asked₂) (rs₁' ++ rs₂') (asked₁' ++ asked₂') where
  commands := by
    rw [List.flatMap_append, List.filterMap_append, List.map_append, h₁.commands, h₂.commands]
  notices := by rw [List.filterMap_append, List.filterMap_append, h₁.notices, h₂.notices]
  faults := by rw [List.flatMap_append, List.flatMap_append, h₁.faults, h₂.faults]

/-- Questions about volumes are seen in neither mode. -/
theorem agree_of_isStorage {qs : List Device.Request} (hqs : ∀ q ∈ qs, q.isStorage = true) :
    Agree [] qs [] qs where
  commands := by
    have hnone : qs.filterMap executed? = [] := by
      refine List.filterMap_eq_nil_iff.mpr fun q hq => ?_
      have := hqs q hq
      cases q <;> first | rfl | cases this
    rw [hnone]
    rfl
  notices := rfl
  faults := rfl

/-- What is asked of a backend that executes invocations is executed. -/
theorem executed_backend (is : List Invocation) :
    (is.map fun i => Device.Request.backend (.execute i)).filterMap executed? = is := by
  rw [List.filterMap_map]
  exact List.filterMap_some ..

theorem notice_backend (is : List Invocation) :
    (is.map fun i => Device.Request.backend (.execute i)).filterMap notice? = [] := by
  rw [List.filterMap_map]
  exact List.filterMap_eq_nil_iff.mpr fun _ _ => rfl

variable {σ β : Type} (storage : Device.Storage σ) (standard : StandardPolicy)
  (yes : Backend.Request → β → Bool × β)

section StandardPolicy

/-- What the standard policy asks for about a package, the install lock being held meanwhile. -/
def lockedRequests (p : Package) : List Device.Request :=
  .lock :: (standard.toPolicy.requestsFor p ++
    (standard.updateWork p).map fun i => .backend (.execute i)) ++ [.unlock]

theorem executed_lockedRequests (p : Package) :
    (lockedRequests standard p).filterMap executed? = standard.updateWork p := by
  rw [lockedRequests, List.filterMap_append, List.filterMap_cons_none rfl, List.filterMap_append,
    executed_backend]
  exact List.append_nil _

theorem notice_lockedRequests (p : Package) :
    (lockedRequests standard p).filterMap notice? = [] := by
  rw [lockedRequests, List.filterMap_append, List.filterMap_cons_none rfl, List.filterMap_append,
    notice_backend]
  rfl

/-- The standard policy is run, and all its invocations are executed. -/
theorem runPolicy_granting (p : Package) (z : σ × β) :
    let device := Device.granting storage standard.toPolicy yes
    ((runPolicy p).run device z).1 = .generated ∧
    ((runPolicy p).run device z).2.1 = z.1 ∧
    (runPolicy p).asked device z = standard.toPolicy.requestsFor p ++
      (standard.updateWork p).map fun i => .backend (.execute i) := by
  intro device
  have hpolicy := Device.granting_policy storage standard.toPolicy yes
  let plan := standard.toPolicy.planFor p
  have hstorage : ((onBackend plan).run device z).2.1 = z.1 :=
    run_onBackend_granting storage standard.toPolicy yes plan z.1 z.2
  rw [runPolicy, Dialogue.run_bind, Dialogue.asked_bind, run_planFor hpolicy,
    asked_planFor hpolicy, Dialogue.run_map, Dialogue.asked_map, asked_onBackend,
    standard.asked_planFor p fun _ _ => rfl, List.map_map]
  refine ⟨?_, hstorage, rfl⟩
  rw [run_onBackend, standard.run_planFor p fun _ _ => rfl]
  cases p.canOptimize <;> rfl

/-- The same is done under the lock. -/
theorem locked_runPolicy (p : Package) (z : σ × β) :
    let device := Device.granting storage standard.toPolicy yes
    ((locked (runPolicy p)).run device z).1 = .generated ∧
    ((locked (runPolicy p)).run device z).2.1 = z.1 ∧
    (locked (runPolicy p)).asked device z = lockedRequests standard p := by
  intro device
  obtain ⟨hrun, hstorage, hasked⟩ := runPolicy_granting storage standard yes p z
  simp only [locked, Dialogue.question_bind, Dialogue.run_ask, Dialogue.asked_ask,
    Dialogue.run_bind, Dialogue.asked_bind, Dialogue.run_pure, Dialogue.asked_pure]
  refine ⟨hrun, hstorage, ?_⟩
  exact congrArg (fun qs => .lock :: (qs ++ [.unlock])) hasked

/-- Behind a check that found enough space, the commands of all invocations are recorded. -/
theorem record_enough (p : Package) (z : σ × β) :
    let device := Device.granting storage standard.toPolicy yes
    let commands := (standard.updateWork p).map Invocation.command
    (recordChecked p (.ok none)).run device z = (.ok commands, z) ∧
    (recordChecked p (.ok none)).asked device z =
      standard.toPolicy.requestsFor p ++ [.report (recordEvent p commands .generated)] := by
  intro device commands
  have hpolicy := Device.granting_policy storage standard.toPolicy yes
  rw [recordChecked, Dialogue.run_bind, Dialogue.asked_bind, run_planFor hpolicy,
    asked_planFor hpolicy, standard.recorded_planFor]
  exact ⟨rfl, rfl⟩

/-- Behind a check that found enough space, all invocations are executed. -/
theorem compile_enough (p : Package) (z : σ × β) :
    let device := Device.granting storage standard.toPolicy yes
    ((compileChecked p (.ok none)).run device z).1 = .ok () ∧
    ((compileChecked p (.ok none)).run device z).2.1 = z.1 ∧
    (compileChecked p (.ok none)).asked device z =
      lockedRequests standard p ++ [.report (compileEvent p .generated)] := by
  obtain ⟨hgenerated, hstorage, hasked⟩ := locked_runPolicy storage standard yes p z
  simp only [compileChecked, Dialogue.run_bind, Dialogue.asked_bind, hasked, hgenerated]
  exact ⟨rfl, hstorage, rfl⟩

variable {c : Coordinator}

/-- Behind a check that came out the same, both modes do the same, each in its way. -/
theorem checked_agrees (p : Package) (n : Nat)
    {check : Except Fault (Option Generation)} (hcheck : SpaceVerdict check) (x : σ) (y y' : β) :
    let device := Device.granting storage standard.toPolicy yes
    let recorded := (recordChecked p check).run device (x, y)
    let compiled := (compileChecked p check).run device (x, y')
    recorded.2.1 = compiled.2.1 ∧
    Agree [⟨recorded.1, n⟩] ((recordChecked p check).asked device (x, y))
      [⟨compiled.1, n⟩] ((compileChecked p check).asked device (x, y')) := by
  intro device recorded compiled
  cases hcheck with
  | fault f => exact ⟨rfl, rfl, rfl, rfl⟩
  | low usable threshold => exact ⟨rfl, rfl, rfl, rfl⟩
  | enough =>
    obtain ⟨hrecorded, hreported⟩ := record_enough storage standard yes p (x, y)
    obtain ⟨hcompiled, hstorage, hexecuted⟩ := compile_enough storage standard yes p (x, y')
    simp only [recorded, compiled, device, hrecorded, hreported, hcompiled, hexecuted]
    refine ⟨hstorage.symm, ?_, ?_, rfl⟩
    · rw [List.filterMap_append, executed_lockedRequests, List.map_append]
      rfl
    · rw [List.filterMap_append, List.filterMap_append, notice_lockedRequests]
      rfl

/-- Both modes ask the storage the same, and do the same with what it says. -/
theorem package_agrees (p : Package) (n : Nat)
    (x : σ) (y y' : β) :
    let device := Device.granting storage standard.toPolicy yes
    let recorded := (c.recordPackage p n).run device (x, y)
    let compiled := (c.compilePackage p n).run device (x, y')
    recorded.2.1 = compiled.2.1 ∧
    Agree [⟨recorded.1, n⟩] ((c.recordPackage p n).asked device (x, y))
      [⟨compiled.1, n⟩] ((c.compilePackage p n).asked device (x, y')) := by
  have hcheck := c.generator.within_checkSpace
  -- both modes tell that they take the package, and ask the storage the same questions
  have htaken : Agree [] [.report (PackageEvent.processing p.name .export n)]
      [] [.report (PackageEvent.processing p.name .direct n)] := ⟨rfl, rfl, rfl⟩
  have hchecks : Agree [] (c.generator.checkSpace.asked storage.alone x)
      [] (c.generator.checkSpace.asked storage.alone x) :=
    agree_of_isStorage (hcheck.asked storage.alone x)
  obtain ⟨hstorage, hchecked⟩ := checked_agrees storage standard yes p n
    (hcheck.run storage.alone x) (c.generator.checkSpace.run storage.alone x).2 y y'
  simp only [recordPackage_eq, compilePackage_eq, emit, Dialogue.question_bind, Dialogue.run_ask,
    Dialogue.asked_ask, Dialogue.run_bind, Dialogue.asked_bind, Device.granting_report,
    Device.run_granting storage standard.toPolicy yes hcheck,
    Device.asked_granting storage standard.toPolicy yes hcheck]
  exact ⟨hstorage, htaken.append (hchecks.append hchecked)⟩

theorem each_agrees (pending : List Package)
    (x : σ) (y y' : β) :
    let device := Device.granting storage standard.toPolicy yes
    Agree ((each c.recordPackage pending).run device (x, y)).1
      ((each c.recordPackage pending).asked device (x, y))
      ((each c.compilePackage pending).run device (x, y')).1
      ((each c.compilePackage pending).asked device (x, y')) := by
  intro device
  induction pending generalizing x y y' with
  | nil => exact ⟨rfl, rfl, rfl⟩
  | cons p pending ih =>
    obtain ⟨hstorage, hpackage⟩ :=
      package_agrees storage standard yes p pending.length x y y'
    have hpending := ih ((c.recordPackage p pending.length).run device (x, y)).2.1
      ((c.recordPackage p pending.length).run device (x, y)).2.2
      ((c.compilePackage p pending.length).run device (x, y')).2.2
    have hbehind : ((c.compilePackage p pending.length).run device (x, y')).2 =
        (((c.recordPackage p pending.length).run device (x, y)).2.1,
          ((c.compilePackage p pending.length).run device (x, y')).2.2) :=
      Prod.ext hstorage.symm rfl
    simp only [each, Dialogue.run_bind, Dialogue.asked_bind, Dialogue.run_map, Dialogue.asked_map]
    rw [hbehind]
    exact hpackage.append hpending

end StandardPolicy

/-- **Both modes agree.**  With the standard policy, whatever the storage says: the commands that
draining a session hands out are those of the invocations that compiling its packages executes, in
order; both tell of the same packages as taken and as low on space, with the same numbers; and the
calls for the same packages end in the same faults.  Draining ends with nothing to do, which no
call before it says, and leaves the session exhausted, and so does compiling. -/
theorem export_agrees_direct (c : Coordinator) (x : σ) (y y' : β) :
    let device := Device.granting storage standard.toPolicy yes
    let exported := (c.exporting.run device (x, y)).1
    let compiled := (c.compiling.run device (x, y')).1
    let exports := c.exporting.asked device (x, y)
    let compiles := c.compiling.asked device (x, y')
    exported.1.flatMap Returned.command =
      (compiles.filterMap executed?).map Invocation.command ∧
    exports.filterMap notice? = compiles.filterMap notice? ∧
    exported.1.flatMap Returned.faults = compiled.1.flatMap Returned.faults ∧
    compiled.1.length = c.registry.forDexopt.length ∧
    (∃ returned, exported.1 = returned ++ [⟨.ok .nothingToDo, 0⟩] ∧
      ∀ r ∈ returned, r.result ≠ .ok .nothingToDo) ∧
    exported.2.lifecycle = .exhausted ∧ compiled.2.lifecycle = .exhausted := by
  intro device exported compiled exports compiles
  have hdeaf := Device.deaf_granting storage standard.toPolicy yes
  have hexporting := exporting_alike hdeaf c
  have hcompiling := compiling_alike hdeaf c
  have hexported := (hexporting (x, y)).1
  have hcompiled := (hcompiling (x, y')).1
  rw [Dialogue.run_map] at hexported hcompiled
  obtain ⟨hcommands, hnotices, hfaults⟩ :=
    each_agrees storage standard yes c.registry.forDexopt x y y'
  have hexecuted := hcompiling.filterMap_asked (f := executed?) (fun _ => rfl) (x, y')
  have hexports := hexporting.filterMap_asked (f := notice?) (fun _ => rfl) (x, y)
  have hcompiles := hcompiling.filterMap_asked (f := notice?) (fun _ => rfl) (x, y')
  rw [Dialogue.asked_map] at hexecuted hexports hcompiles
  simp only [exported, compiled, exports, compiles, device, hexported, hcompiled, hexecuted,
    hexports, hcompiles]
  refine ⟨?_, hnotices, ?_, length_each _ _ _ _, ?_, rfl, rfl⟩
  · exact (flatMap_drained handOut_commands rfl _).trans hcommands
  · exact (flatMap_drained handOut_faults rfl _).trans hfaults
  · exact ⟨_, rfl, handOut_ne_nothingToDo _⟩

/-- One package is compiled for two instruction sets, and one is low on space. -/
theorem export_agrees_direct_two :
    let c : Coordinator := {
      registry := .ofList [
        { name := "a", codePaths := [⟨"base.apk"⟩], instructionSets := [.arm64, .arm] },
        { name := "b", codePaths := [⟨"b.apk"⟩] }]
      generator := ⟨⟨⟨"/data"⟩⟩⟩
      relocator := { immutablePartitions := [] } }
    -- each question for the free space leaves less of it
    let storage : Device.Storage UInt64 := ⟨fun _ x => (.ok 100, x), fun _ x => (.ok x, x - 60)⟩
    let device := Device.granting storage ({} : StandardPolicy).toPolicy fun _ y => (true, y)
    let exported := (c.exporting.run device (150, ())).1
    let exports := c.exporting.asked device (150, ())
    let compiles := c.compiling.asked device (150, ())
    (compiles.filterMap executed?).map (·.instructionSet) = [.arm64, .arm] ∧
      exported.1.flatMap Returned.command =
        (compiles.filterMap executed?).map Invocation.command ∧
      .low "b" 90 100 ∈ exports.filterMap notice? := by
  intro c storage device exported exports compiles
  obtain ⟨hcommands, hnotices, -⟩ :=
    export_agrees_direct storage {} (fun _ (y : Unit) => (true, y)) c 150 () ()
  refine ⟨by decide, hcommands, ?_⟩
  rw [hnotices]
  decide

end Coordinator

end OtaCompile
