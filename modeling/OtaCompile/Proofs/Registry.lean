import Mathlib.Data.List.Forall2
import Mathlib.Data.List.Nodup
import OtaCompile.Proofs.Relocation
import OtaCompile.Registry

/-!
# What a manifest registers

The scan for a package whose name was there before goes through a manifest with the names that it
has seen; whatever it passes is new to them (`Fresh`, `firstRepeated?_eq_some_iff`).  The order in
which packages are compiled is the only list with the core packages first that has the same core
packages and the same others as the manifest (`eq_compileOrder_iff`), and a second registration
finds nothing left to fill in.  `manifest_order` says what is registered of a manifest.
-/

namespace OtaCompile

/-! ## The install directory -/

/-- What a package becomes: its install directory, where that is not known, is the parent of the
base code path, if there is one. -/
inductive Package.Defaults (p : Package) : Package → Prop
  | known {dir : Path} (hdir : p.installDir = some dir) : Defaults p p
  | parent {base dir : Path} {splits : List Path} (hdir : p.installDir = none)
    (hpaths : p.codePaths = base :: splits) (hparent : base.parent = some dir) :
    Defaults p { p with installDir := some dir }
  | unknown (hdir : p.installDir = none) (hbase : ∀ base ∈ p.codePaths.head?, base.parent = none) :
    Defaults p p

theorem Package.withDefaultInstallDir_eq_self {p : Package}
    (h : p.installDir.or (p.codePaths.head?.bind Path.parent) = p.installDir) :
    p.withDefaultInstallDir = p := by
  rw [withDefaultInstallDir, h]

theorem Package.defaults_withDefaultInstallDir (p : Package) :
    p.Defaults p.withDefaultInstallDir := by
  cases hdir : p.installDir with
  | some dir =>
    rw [withDefaultInstallDir_eq_self (by rw [hdir, Option.some_or])]
    exact .known hdir
  | none =>
    cases hbase : p.codePaths.head?.bind Path.parent with
    | none =>
      rw [withDefaultInstallDir_eq_self (by rw [hdir, hbase, Option.none_or])]
      exact .unknown hdir (Option.bind_eq_none_iff.mp hbase)
    | some dir =>
      obtain ⟨base, hhead, hparent⟩ := Option.bind_eq_some_iff.mp hbase
      obtain ⟨splits, hpaths⟩ := List.head?_eq_some_iff.mp hhead
      rw [withDefaultInstallDir, hdir, hbase, Option.none_or]
      exact .parent hdir hpaths hparent

/-! ## Repeated names -/

namespace Registry

/-- No two of the packages have the same name, and none has a name seen before. -/
def Fresh (seen : List String) (ps : List Package) : Prop :=
  (ps.map Package.name).Nodup ∧ ∀ p ∈ ps, p.name ∉ seen

variable {seen : List String} {p : Package} {ps : List Package}

theorem fresh_cons : Fresh seen (p :: ps) ↔ p.name ∉ seen ∧ Fresh (p.name :: seen) ps := by
  unfold Fresh
  rw [List.map_cons, List.nodup_cons, List.forall_mem_cons, List.mem_map]
  constructor
  · rintro ⟨⟨hp, hnodup⟩, hseen, hps⟩
    refine ⟨hseen, hnodup, fun q hq hmem => ?_⟩
    rcases List.mem_cons.mp hmem with hname | hmem
    · exact hp ⟨q, hq, hname⟩
    · exact hps q hq hmem
  · rintro ⟨hseen, hnodup, hps⟩
    refine ⟨⟨?_, hnodup⟩, hseen, fun q hq hmem => hps q hq (List.mem_cons_of_mem _ hmem)⟩
    rintro ⟨q, hq, hname⟩
    exact hps q hq (hname ▸ List.mem_cons_self)

theorem firstRepeated?_eq_none_iff : firstRepeated? seen ps = none ↔ Fresh seen ps := by
  induction ps generalizing seen with
  | nil => exact iff_of_true rfl ⟨List.nodup_nil, nofun⟩
  | cons p ps ih =>
    rw [fresh_cons, firstRepeated?]
    by_cases hp : p.name ∈ seen
    · rw [if_pos hp]
      exact iff_of_false nofun fun h => h.1 hp
    · rw [if_neg hp, ih]
      exact (and_iff_right hp).symm

/-- The scan stops at the first package that is not new to the names before it. -/
theorem firstRepeated?_eq_some_iff :
    firstRepeated? seen ps = some p ↔
      ∃ before after, ps = before ++ p :: after ∧ Fresh seen before ∧
        (p.name ∈ before.map Package.name ∨ p.name ∈ seen) := by
  induction ps generalizing seen with
  | nil =>
    refine iff_of_false nofun ?_
    rintro ⟨before, after, hps, -⟩
    exact List.append_ne_nil_of_right_ne_nil before (List.cons_ne_nil p after) hps.symm
  | cons q ps ih =>
    rw [firstRepeated?]
    by_cases hq : q.name ∈ seen
    · rw [if_pos hq, Option.some.injEq]
      constructor
      · rintro rfl
        exact ⟨[], ps, rfl, ⟨List.nodup_nil, nofun⟩, .inr hq⟩
      · rintro ⟨before, after, hps, hfresh, -⟩
        cases before with
        | nil => exact (List.cons.inj hps).1
        | cons b before =>
          obtain ⟨rfl, -⟩ := List.cons.inj hps
          exact absurd hq (fresh_cons.mp hfresh).1
    · rw [if_neg hq, ih]
      constructor
      · rintro ⟨before, after, rfl, hfresh, hp⟩
        refine ⟨q :: before, after, rfl, fresh_cons.mpr ⟨hq, hfresh⟩, ?_⟩
        rw [List.mem_cons] at hp
        rw [List.map_cons, List.mem_cons]
        tauto
      · rintro ⟨before, after, hps, hfresh, hp⟩
        cases before with
        | nil =>
          obtain ⟨rfl, -⟩ := List.cons.inj hps
          simp only [List.map_nil, List.not_mem_nil, false_or] at hp
          exact absurd hp hq
        | cons b before =>
          obtain ⟨rfl, hps'⟩ := List.cons.inj hps
          refine ⟨before, after, hps', (fresh_cons.mp hfresh).2, ?_⟩
          rw [List.map_cons, List.mem_cons] at hp
          rw [List.mem_cons]
          tauto

theorem fresh_nil_iff : Fresh [] ps ↔ (ps.map Package.name).Nodup :=
  and_iff_left fun _ _ => List.not_mem_nil

theorem firstRepeated?_nil_eq_some_iff :
    firstRepeated? [] ps = some p ↔
      ∃ before after, ps = before ++ p :: after ∧ (before.map Package.name).Nodup ∧
        p.name ∈ before.map Package.name := by
  simp only [firstRepeated?_eq_some_iff, fresh_nil_iff, List.not_mem_nil, or_false]

/-! ## The order -/

/-- Where what has a property comes first, the others follow. -/
theorem eq_filter_append_filter {α : Type} {f : α → Bool} {l : List α}
    (h : l.Pairwise fun a b => f b = true → f a = true) :
    l = l.filter f ++ l.filter (! f ·) := by
  induction l with
  | nil => rfl
  | cons a l ih =>
    obtain ⟨ha, hl⟩ := List.pairwise_cons.mp h
    by_cases hfa : f a = true
    · rw [List.filter_cons_of_pos hfa, List.filter_cons_of_neg (by simp [hfa]), List.cons_append,
        ← ih hl]
    · have hnone : ∀ b ∈ l, ¬ f b = true := fun b hb hfb => hfa (ha b hb hfb)
      have hcore : l.filter f = [] := List.filter_eq_nil_iff.mpr hnone
      have hrest : l.filter (! f ·) = l := by
        refine List.filter_eq_self.mpr fun b hb => ?_
        rw [Bool.eq_false_iff.mpr (hnone b hb), Bool.not_false]
      rw [List.filter_cons_of_neg hfa, List.filter_cons_of_pos (by simp [hfa]), hcore, hrest,
        List.nil_append]

/-- The packages there is something to compile of and that are core packages, or the others. -/
def group (core : Bool) (ps : List Package) : List Package :=
  ps.filter fun p => p.Compilable ∧ p.coreApp = core

theorem mem_group {core : Bool} : p ∈ group core ps ↔ p ∈ ps ∧ p.Compilable ∧ p.coreApp = core := by
  rw [group, List.mem_filter, decide_eq_true_iff]

theorem filter_group (core : Bool) : (group core ps).filter (·.coreApp = core) = group core ps := by
  refine List.filter_eq_self.mpr fun p hp => decide_eq_true ?_
  exact (mem_group.mp hp).2.2

theorem filter_group_of_ne {core core' : Bool} (h : core' ≠ core) :
    (group core' ps).filter (·.coreApp = core) = [] := by
  refine List.filter_eq_nil_iff.mpr fun p hp hcore => h ?_
  exact (mem_group.mp hp).2.2.symm.trans (of_decide_eq_true hcore)

theorem compileOrder_eq : compileOrder ps = group true ps ++ group false ps := by
  have hgroup : ∀ (core : Bool) (f : Package → Bool), (∀ p, f p = true ↔ p.coreApp = core) →
      (ps.filter Package.canOptimize).filter f = group core ps := by
    intro core f hf
    rw [List.filter_filter]
    refine List.filter_congr fun p _ => ?_
    rw [Bool.eq_iff_iff, Bool.and_eq_true, decide_eq_true_iff, hf, p.canOptimize_iff, and_comm]
  have hcore : ∀ p : Package, p.coreApp = true ↔ p.coreApp = true := fun p => Iff.rfl
  have hother : ∀ p : Package, (! p.coreApp) = true ↔ p.coreApp = false := fun p =>
    Bool.not_eq_eq_eq_not
  exact congrArg₂ _ (hgroup true _ hcore) (hgroup false _ hother)

theorem filter_compileOrder (core : Bool) :
    (compileOrder ps).filter (·.coreApp = core) = group core ps := by
  rw [compileOrder_eq, List.filter_append]
  cases core with
  | true => rw [filter_group, filter_group_of_ne Bool.false_ne_true, List.append_nil]
  | false => rw [filter_group, filter_group_of_ne Bool.false_ne_true.symm, List.nil_append]

theorem pairwise_compileOrder :
    (compileOrder ps).Pairwise fun a b => b.coreApp = true → a.coreApp = true := by
  have hcore : ∀ {core p}, p ∈ group core ps → p.coreApp = core := fun hp => (mem_group.mp hp).2.2
  rw [compileOrder_eq, List.pairwise_append]
  refine ⟨?_, ?_, fun a ha b _ _ => hcore ha⟩
  · exact List.pairwise_of_forall_mem_list fun a ha b _ _ => hcore ha
  · refine List.pairwise_of_forall_mem_list fun a _ b hb hb' => ?_
    rw [hcore hb] at hb'
    exact absurd hb' Bool.false_ne_true

theorem mem_compileOrder : p ∈ compileOrder ps ↔ p ∈ ps ∧ p.Compilable := by
  rw [compileOrder_eq, List.mem_append, mem_group, mem_group]
  cases p.coreApp <;> simp

theorem nodup_compileOrder (h : ps.Nodup) : (compileOrder ps).Nodup := by
  rw [compileOrder_eq]
  refine (h.filter _).append (h.filter _) ?_
  intro p hp hp'
  exact Bool.false_ne_true ((mem_group.mp hp').2.2.symm.trans (mem_group.mp hp).2.2)

/-- The order in which packages are compiled is the only one with core packages first that keeps
the order among these and among the others. -/
theorem eq_compileOrder_iff (order : List Package) :
    order = compileOrder ps ↔
      order.Pairwise (fun a b => b.coreApp = true → a.coreApp = true) ∧
      ∀ core, order.filter (·.coreApp = core) = group core ps := by
  constructor
  · rintro rfl
    exact ⟨pairwise_compileOrder, filter_compileOrder⟩
  · rintro ⟨hpairwise, hfilter⟩
    have hcore : order.filter (·.coreApp) = group true ps := by simpa using hfilter true
    have hother : order.filter (! ·.coreApp) = group false ps := by simpa using hfilter false
    rw [compileOrder_eq, ← hcore, ← hother]
    exact eq_filter_append_filter hpairwise

/-! ## The registry of a manifest -/

theorem ofManifest_eq_error_iff {f : Fault} :
    ofManifest ps = .error f ↔
      ∃ before p after, ps = before ++ p :: after ∧ (before.map Package.name).Nodup ∧
        p.name ∈ before.map Package.name ∧
          f = SettingsFault.invalid ("duplicate package " ++ p.name) := by
  unfold ofManifest
  constructor
  · intro h
    cases hfirst : firstRepeated? [] ps with
    | none =>
      rw [hfirst] at h
      cases h
    | some p =>
      rw [hfirst] at h
      cases h
      obtain ⟨before, after, hps, hnodup, hp⟩ := firstRepeated?_nil_eq_some_iff.mp hfirst
      exact ⟨before, p, after, hps, hnodup, hp, rfl⟩
  · rintro ⟨before, p, after, hps, hnodup, hp, rfl⟩
    rw [firstRepeated?_nil_eq_some_iff.mpr ⟨before, after, hps, hnodup, hp⟩]

theorem ofManifest_eq_ok_iff {r : Registry} :
    ofManifest ps = .ok r ↔
      (ps.map Package.name).Nodup ∧ r.all = ps.map Package.withDefaultInstallDir ∧
        r.forDexopt = compileOrder r.all := by
  unfold ofManifest
  cases hfirst : firstRepeated? [] ps with
  | none =>
    have hnodup := fresh_nil_iff.mp (firstRepeated?_eq_none_iff.mp hfirst)
    constructor
    · rintro ⟨⟩
      exact ⟨hnodup, rfl, rfl⟩
    · rintro ⟨-, hall, hdexopt⟩
      obtain ⟨all, forDexopt⟩ := r
      obtain rfl : all = ps.map Package.withDefaultInstallDir := hall
      obtain rfl : forDexopt = compileOrder (ps.map Package.withDefaultInstallDir) := hdexopt
      rfl
  | some p =>
    refine iff_of_false nofun ?_
    rintro ⟨hnodup, -⟩
    rw [firstRepeated?_eq_none_iff.mpr (fresh_nil_iff.mpr hnodup)] at hfirst
    cases hfirst

theorem map_name_withDefaultInstallDir (ps : List Package) :
    (ps.map Package.withDefaultInstallDir).map Package.name = ps.map Package.name := by
  rw [List.map_map]
  rfl

/-- Registering what is registered changes nothing. -/
theorem ofManifest_all {r : Registry} (h : ofManifest ps = .ok r) : ofManifest r.all = .ok r := by
  obtain ⟨hnodup, hall, hdexopt⟩ := ofManifest_eq_ok_iff.mp h
  have hnames : (r.all.map Package.name).Nodup := by rwa [hall, map_name_withDefaultInstallDir]
  have hsame : r.all.map Package.withDefaultInstallDir = r.all := by
    rw [hall, List.map_map]
    exact List.map_congr_left fun p _ => p.withDefaultInstallDir_idem
  exact ofManifest_eq_ok_iff.mpr ⟨hnames, hsame.symm, hdexopt⟩

/-- **The registry of a manifest.**  For every list of packages: it has a registry unless two
packages have the same name, and the fault names the first package whose name was there before.  In
the registry are the packages in manifest order, and what each became is itself, with the parent of
its base code path for an install directory that was not known.  To compile are those with code and
a code path, each once, core packages first and otherwise in manifest order; there is no other such
list.  The registered packages have the same registry again. -/
theorem manifest_order (ps : List Package) :
    ((∃ f, ofManifest ps = .error f) ↔ ¬ (ps.map Package.name).Nodup) ∧
    (∀ f, ofManifest ps = .error f ↔
      ∃ before p after, ps = before ++ p :: after ∧ (before.map Package.name).Nodup ∧
        p.name ∈ before.map Package.name ∧
          f = SettingsFault.invalid ("duplicate package " ++ p.name)) ∧
    ∀ r, ofManifest ps = .ok r →
      List.Forall₂ Package.Defaults ps r.all ∧
      r.forDexopt.Nodup ∧ (∀ p, p ∈ r.forDexopt ↔ p ∈ r.all ∧ p.Compilable) ∧
      (∀ order, order = r.forDexopt ↔
        order.Pairwise (fun p q => q.coreApp = true → p.coreApp = true) ∧
        ∀ core, order.filter (·.coreApp = core) = group core r.all) ∧
      ofManifest r.all = .ok r := by
  refine ⟨?fails, fun f => ofManifest_eq_error_iff, fun r hr => ?ok⟩
  case fails =>
    cases hresult : ofManifest ps with
    | ok r =>
      exact iff_of_false nofun fun h => h (ofManifest_eq_ok_iff.mp hresult).1
    | error f =>
      refine iff_of_true ⟨f, rfl⟩ fun hnodup => ?_
      have hok := (ofManifest_eq_ok_iff (r := ⟨_, compileOrder _⟩)).mpr ⟨hnodup, rfl, rfl⟩
      rw [hresult] at hok
      cases hok
  case ok =>
    obtain ⟨hnodup, hall, hdexopt⟩ := ofManifest_eq_ok_iff.mp hr
    have hnames : (r.all.map Package.name).Nodup := by rwa [hall, map_name_withDefaultInstallDir]
    rw [hdexopt]
    refine ⟨?_, nodup_compileOrder (.of_map _ hnames), fun p => mem_compileOrder,
      eq_compileOrder_iff, ofManifest_all hr⟩
    rw [hall, List.forall₂_map_right_iff, List.forall₂_same]
    exact fun p _ => p.defaults_withDefaultInstallDir

end Registry

end OtaCompile
