import OtaCompile.Proofs.Relocation

/-!
# What the standard policy executes

The standard policy executes the invocations of a package one after the other, up to the first that
the backend refuses (`StandardPolicy.perform_outcome`).  There is one for every instruction set
compiled for and every code path.
-/

namespace OtaCompile

/-! ## Instruction sets and code paths -/

namespace StandardPolicy

variable (s : StandardPolicy) (p : Package) (options : CompileOptions)

theorem length_invocations :
    (s.invocations p options).length =
      ((p.instructionSetsOr s.defaultIsa).map s.translation.apply).toFinset.card *
        p.codePaths.length := by
  rw [invocations, List.length_flatMap]
  simp only [List.length_map]
  rw [List.map_const', List.sum_replicate_nat, Translation.length_dexCode]

theorem flags_eq :
    flags options = .publicOutput ||| options.extraFlags |||
      if options.filter.profileGuided then .profileGuided else .none := by
  unfold flags
  split
  · rfl
  · have hnone : ∀ fs : Compiler.Flags, fs ||| .none = fs := fun fs =>
      congrArg Compiler.Flags.mk UInt32.or_zero
    rw [hnone]

theorem instructionSetsOr_eq (fallback : InstructionSet) :
    p.instructionSetsOr fallback =
      if p.instructionSets = [] then [fallback] else p.instructionSets := by
  rw [Package.instructionSetsOr]
  simp only [List.isEmpty_iff]

/-! ## Executing them -/

/-- Where the backend refuses nothing, it does not end with a refusal. -/
theorem map_granted_ne {is before : List Invocation} {i : Invocation} {f : BackendFault} :
    is.map Backend.granted ≠ before.map Backend.granted ++ [Backend.refused i f] := by
  intro h
  have hmem : Backend.refused i f ∈ is.map Backend.granted := by
    rw [h]
    exact List.mem_append_right _ (List.mem_singleton_self _)
  obtain ⟨j, -, heq⟩ := List.mem_map.mp hmem
  cases heq

variable {s p options} in
/-- A package is skipped, or its invocations are executed up to the first that is refused. -/
theorem leads_perform {ts : List Backend.Exchange} {r : PolicyResult}
    (h : (s.perform p options).Leads ts r) :
    (¬ p.Compilable ∧ r = .skipped ∧ ts = []) ∨
      p.Compilable ∧
        ((r = .performed ∧ ts = (s.invocations p options).map Backend.granted) ∨
          ∃ before i after f, s.invocations p options = before ++ i :: after ∧
            ts = before.map Backend.granted ++ [Backend.refused i f] ∧
            r = .failed (.backend f)) := by
  unfold perform at h
  split at h
  · next hcan =>
    refine .inr ⟨p.canOptimize_iff.mp hcan, ?_⟩
    exact (Policy.leads_executeAll h).imp_left And.symm
  · next hcan =>
    obtain ⟨hts, hr⟩ := Dialogue.leads_pure.mp h
    exact .inl ⟨mt p.canOptimize_iff.mpr hcan, hr, hts⟩

/-- **Executing a package.**  A package without code or without code paths is skipped, and the
backend is not asked for anything.  For every other one the backend is asked to execute one
invocation for each instruction set compiled for and, within it, each code path, one after the other
up to the first that it refuses; that refusal is the result, if there is one. -/
theorem perform_outcome {σ : Type} (answer : (q : Backend.Request) → σ → Backend.Reply q × σ)
    (x : σ) :
    let native := if p.instructionSets = [] then [s.defaultIsa] else p.instructionSets
    let isas := (native.map s.translation.apply).eraseDups
    let all : List Invocation := isas.flatMap fun isa => p.codePaths.map fun codePath =>
      { codePath
        uid := p.uid
        packageName := p.name
        instructionSet := isa
        outputDir := p.installDir.map (·.join ⟨"oat"⟩)
        flags := .publicOutput ||| options.extraFlags |||
          if options.filter.profileGuided then .profileGuided else .none
        filter := options.filter
        sharedLibraries := p.sharedLibraries }
    let r := ((s.perform p options).run answer x).1
    let ts := (s.perform p options).transcript answer x
    (r = .skipped ↔ p.hasCode = false ∨ p.codePaths = []) ∧
    (r = .skipped → ts = []) ∧
    (r = .performed ↔
      (p.hasCode = true ∧ p.codePaths ≠ []) ∧ ts = all.map Backend.granted) ∧
    (∀ f, r = .failed f ↔
      ∃ before i after refusal, all = before ++ i :: after ∧
        ts = before.map Backend.granted ++ [Backend.refused i refusal] ∧ f = .backend refusal) ∧
    all.length = (native.map s.translation.apply).toFinset.card * p.codePaths.length := by
  intro native isas all r ts
  have hnative : native = p.instructionSetsOr s.defaultIsa := (instructionSetsOr_eq p _).symm
  have hall : all = s.invocations p options := by
    simp only [all, isas, hnative, ← Translation.dexCode_eq, ← flags_eq]
    rfl
  have hleads : (s.perform p options).Leads ts r := Dialogue.leads_run answer _ x
  have hcompilable : ¬ p.Compilable ↔ p.hasCode = false ∨ p.codePaths = [] := by
    rw [Package.Compilable, not_and_or, not_not, Bool.not_eq_true]
  rw [hall, hnative, length_invocations, ← hcompilable]
  clear_value r ts
  have hskip : PolicyResult.skipped ≠ .performed := by rintro ⟨⟩
  have hfail : ∀ f, PolicyResult.failed f ≠ .skipped ∧ PolicyResult.failed f ≠ .performed :=
    fun f => ⟨by rintro ⟨⟩, by rintro ⟨⟩⟩
  rcases leads_perform hleads with
    ⟨hnone, rfl, rfl⟩ | ⟨hsome, ⟨rfl, rfl⟩ | ⟨before, i, after, f, hsplit, rfl, rfl⟩⟩
  · refine ⟨iff_of_true rfl hnone, fun _ => rfl, iff_of_false hskip fun h => hnone h.1, ?_, rfl⟩
    refine fun f => iff_of_false (hfail f).1.symm ?_
    rintro ⟨before, i, after, refusal, -, hts, -⟩
    have hnil : ([] : List Invocation).map Backend.granted = _ := hts
    exact map_granted_ne hnil
  · refine ⟨iff_of_false hskip.symm (not_not.mpr hsome), fun h => absurd h hskip.symm,
      iff_of_true rfl ⟨hsome, rfl⟩, fun f => iff_of_false (hfail f).2.symm ?_, rfl⟩
    rintro ⟨before, i, after, refusal, -, hts, -⟩
    exact map_granted_ne hts
  · obtain ⟨hskipped, hperformed⟩ := hfail (.backend f)
    refine ⟨iff_of_false hskipped (not_not.mpr hsome), fun h => absurd h hskipped,
      iff_of_false hperformed ?_, fun g => ?_, rfl⟩
    · rintro ⟨-, hts⟩
      exact map_granted_ne hts.symm
    · constructor
      · intro hg
        exact ⟨before, i, after, f, hsplit, rfl, (PolicyResult.failed.inj hg).symm⟩
      · rintro ⟨before', j, after', refusal, -, hts, rfl⟩
        obtain ⟨-, hlast⟩ := List.append_singleton_inj.mp hts
        cases hlast
        rfl

end StandardPolicy

end OtaCompile
