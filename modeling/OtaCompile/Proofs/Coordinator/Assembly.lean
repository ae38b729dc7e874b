import OtaCompile.Coordinator.Assembly
import OtaCompile.Proofs.Fallible
import OtaCompile.Proofs.Policy

/-!
# Tables and policies that were given

Things are given in any order, and as often as one likes.  The table of an assembly is the one given
last; its policy, if none was given as such, is the standard one of the settings given first
(`Assembly.translation_give`, `Assembly.policy_give`, and over a whole run
`Assembly.translation_foldlM`, `Assembly.policy_foldlM`).  `Assembly.standardPolicy_of_given` puts
the two side by side: the policy compiles for what the relocator moves unless another table is given
after those settings.
-/

namespace OtaCompile

namespace Settings

/-- The table, empty if it is refused. -/
def table (s : Settings) : Translation := s.translation.toOption.getD ∅

def standardPolicy (s : Settings) : StandardPolicy :=
  { otaFilter := s.compilerFilter, translation := s.table }

end Settings

variable {P : Parts}

/-! ## What is given -/

namespace Given

def isPolicy : Given P → Bool
  | .policy _ => true
  | _ => false

def settings? : Given P → Option Settings
  | .settings s => some s
  | _ => none

/-- Tables are given as such and with settings. -/
def table? : Given P → Option Translation
  | .translation t => some t
  | .settings s => some s.table
  | _ => none

def firstSettings? (gs : List (Given P)) : Option Settings :=
  gs.findSome? settings?

def lastTable? (gs : List (Given P)) : Option Translation :=
  (gs.filterMap table?).getLast?

theorem getD_lastTable?_cons (g : Given P) (gs : List (Given P)) (t : Translation) :
    (lastTable? (g :: gs)).getD t = (lastTable? gs).getD (g.table?.getD t) := by
  rw [lastTable?, lastTable?]
  cases hg : g.table? with
  | none => rw [List.filterMap_cons_none hg, Option.getD_none]
  | some u =>
    rw [List.filterMap_cons_some hg, List.getLast?_cons, Option.getD_some, Option.getD_some]

theorem firstSettings?_cons (g : Given P) (gs : List (Given P)) :
    firstSettings? (g :: gs) = g.settings?.or (firstSettings? gs) := by
  rw [firstSettings?, List.findSome?_cons]
  cases g.settings? <;> rfl

end Given

namespace Assembly

variable {a a' : Assembly P} {g : Given P} {gs : List (Given P)} {done : Assembled P}

/-! ## One step -/

/-- Settings that are taken over bring their table and, if there is none yet, their policy. -/
theorem withSettings_eq_ok {s : Settings} (h : a.withSettings s = .ok a') :
    a' = { a with
      translation := s.table
      dataDir := some s.dataDir
      immutablePartitions := some s.partitionsOrDefault
      policy := a.policy.or (some s.standardPolicy.toPolicy) } := by
  obtain ⟨t, htable, hafter⟩ := bind_eq_ok.mp h
  have hs : s.table = t := by rw [Settings.table, htable]; rfl
  rw [Settings.standardPolicy, hs]
  exact (Except.ok.inj hafter).symm

theorem translation_give (h : a.give g = .ok a') :
    a'.translation = g.table?.getD a.translation := by
  cases g with
  | settings s => rw [withSettings_eq_ok h]; rfl
  | _ => cases h; rfl

theorem policy_give (hg : g.isPolicy = false) (h : a.give g = .ok a') :
    a'.policy = a.policy.or (g.settings?.map (·.standardPolicy.toPolicy)) := by
  cases g with
  | policy p => cases hg
  | settings s => rw [withSettings_eq_ok h]; rfl
  | _ => cases h; exact Option.or_none.symm

/-! ## A whole run -/

theorem translation_foldlM (h : gs.foldlM give a = .ok a') :
    a'.translation = (Given.lastTable? gs).getD a.translation := by
  induction gs generalizing a with
  | nil => cases h; rfl
  | cons g gs ih =>
    rw [List.foldlM_cons] at h
    obtain ⟨b, hg, hgs⟩ := bind_eq_ok.mp h
    rw [ih hgs, translation_give hg, Given.getD_lastTable?_cons]

theorem policy_foldlM (hpolicy : ∀ g ∈ gs, g.isPolicy = false) (h : gs.foldlM give a = .ok a') :
    a'.policy = a.policy.or ((Given.firstSettings? gs).map (·.standardPolicy.toPolicy)) := by
  induction gs generalizing a with
  | nil => cases h; exact Option.or_none.symm
  | cons g gs ih =>
    obtain ⟨hg, hgs⟩ := List.forall_mem_cons.mp hpolicy
    rw [List.foldlM_cons] at h
    obtain ⟨b, hb, hrest⟩ := bind_eq_ok.mp h
    rw [ih hgs hrest, policy_give hg hb, Given.firstSettings?_cons, Option.or_assoc, Option.map_or]

/-! ## What is built -/

/-- The relocator gets the table, and so does the policy if there is none yet. -/
theorem assemble_eq_ok (h : a.assemble = .ok done) :
    done.coordinator.relocator.translation = a.translation ∧
      done.policy = a.policy.getD { translation := a.translation : StandardPolicy }.toPolicy := by
  obtain ⟨registry, -, h⟩ := bind_eq_ok.mp h
  obtain ⟨storage, -, h⟩ := bind_eq_ok.mp h
  obtain ⟨mover, -, h⟩ := bind_eq_ok.mp h
  obtain ⟨backend, -, h⟩ := bind_eq_ok.mp h
  obtain rfl := Except.ok.inj h
  exact ⟨rfl, rfl⟩

/-- **One table for compiling and for moving.**  If no policy is given as such, the policy is a
standard one.  The filter of an A/B update is the one that the first settings put in its place;
later settings leave it, as they find a policy.  The relocator has the table given last, and the
policy has it as well, unless it is another than that of the first settings. -/
theorem standardPolicy_of_given (hpolicy : ∀ g ∈ gs, g.isPolicy = false)
    (h : assembleGiven gs = .ok done) :
    let table := (Given.lastTable? gs).getD ∅
    done.coordinator.relocator.translation = table ∧
      ∃ t, done.policy =
          StandardPolicy.toPolicy
            { otaFilter := (Given.firstSettings? gs).bind (·.compilerFilter), translation := t } ∧
        ((∀ s ∈ Given.firstSettings? gs, s.table = table) → t = table) := by
  intro table
  obtain ⟨a, hgs, hdone⟩ := bind_eq_ok.mp h
  obtain ⟨hrelocator, hdefault⟩ := assemble_eq_ok hdone
  have htable : a.translation = table := translation_foldlM hgs
  rw [policy_foldlM hpolicy hgs, Option.none_or, htable] at hdefault
  refine ⟨hrelocator.trans htable, ?_⟩
  cases hfirst : Given.firstSettings? gs with
  | none =>
    rw [hfirst] at hdefault
    exact ⟨table, hdefault, fun _ => rfl⟩
  | some s =>
    rw [hfirst] at hdefault
    exact ⟨s.table, hdefault, fun hs => hs s rfl⟩

/-- Two settings with one table, and different filters. -/
theorem standardPolicy_of_given_twice :
    let gs : List (Given (.mk Unit Unit Unit Unit Unit)) :=
      [.translation ∅, .registry (.ofList []),
        .settings { compilerFilter := some .speed, dexCodeIsa := [("arm", "arm64")] },
        .device () () (), .installLock (), .sender (),
        .settings { compilerFilter := some .everything, dexCodeIsa := [("arm", "arm64")] }]
    (∀ g ∈ gs, g.isPolicy = false) ∧ ∃ done, assembleGiven gs = .ok done ∧
      done.policy = StandardPolicy.toPolicy
        { otaFilter := some .speed, translation := done.coordinator.relocator.translation } := by
  intro gs
  have hpolicy : ∀ g ∈ gs, g.isPolicy = false := by decide
  obtain ⟨done, hdone⟩ : ∃ done, assembleGiven gs = .ok done := ⟨_, rfl⟩
  obtain ⟨hrelocator, t, hdefault, ht⟩ := standardPolicy_of_given hpolicy hdone
  refine ⟨hpolicy, done, hdone, ?_⟩
  rw [hrelocator, hdefault, ht]
  · rfl
  · intro s hs
    obtain rfl := Option.some.inj hs
    rfl

/-- Later settings give the relocator their table; the policy keeps the table and the filter of the
first. -/
theorem later_settings_reach_relocator_only :
    let later : Settings :=
      { compilerFilter := some .everything, dexCodeIsa := [("arm", "x86")] }
    let gs : List (Given (.mk Unit Unit Unit Unit Unit)) :=
      [.registry (.ofList []), .device () () (),
        .settings { compilerFilter := some .speed, dexCodeIsa := [("arm", "arm64")] },
        .settings later]
    (∀ g ∈ gs, g.isPolicy = false) ∧ ∃ done, assembleGiven gs = .ok done ∧
      done.coordinator.relocator.translation = later.table ∧
      done.policy.filterFor .abOta ≠
        StandardPolicy.filterFor { otaFilter := later.compilerFilter } .abOta ∧
      ∀ otaFilter, done.policy ≠ StandardPolicy.toPolicy
        { otaFilter, translation := done.coordinator.relocator.translation } := by
  refine ⟨by decide, _, rfl, rfl, by decide, fun otaFilter h => ?_⟩
  have hsame : InstructionSet.arm64 = .x86 := StandardPolicy.apply_eq_of_toPolicy_eq h .arm
  cases hsame

end Assembly

end OtaCompile
