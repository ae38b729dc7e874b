import Mathlib.Data.Finset.Card
import Mathlib.Data.Finset.Dedup
import Mathlib.Data.List.Basic
import Mathlib.Data.List.Induction
import OtaCompile.InstructionSet

/-!
# Instruction sets compiled for

The list of instruction sets that code is compiled for grows while the native ones are gone through:
each translation that is not in it yet is put at its end (`dexCode_concat`).  So it has the
translations without repetitions, in the order in which they come first (`pairwise_dexCode`), and no
other list has (`eq_dexCode_iff`).  What is behind changes nothing in front, and what has been
translated to before changes nothing at all (`dexCode_of_known`).
-/

namespace OtaCompile.Translation

variable (t : Translation) (native : List InstructionSet)

/-- The instruction sets compiled for are the translated ones, each where it comes first. -/
theorem dexCode_eq (t : Translation) (native : List InstructionSet) :
    t.dexCode native = (native.map t.apply).eraseDups := by
  induction native using List.reverseRecOn with
  | nil => rfl
  | append_singleton native isa ih =>
    rw [dexCode_concat, ih, List.map_append, List.eraseDups_append, List.map_singleton, addNew]
    by_cases h : t.apply isa ∈ native.map t.apply
    · have hseen : [t.apply isa].removeAll (native.map t.apply) = [] :=
        List.filter_cons_of_neg (by simpa using h)
      rw [hseen, if_pos (List.mem_eraseDups.mpr h)]
      exact (List.append_nil _).symm
    · have hnew : [t.apply isa].removeAll (native.map t.apply) = [t.apply isa] :=
        List.filter_cons_of_pos (by simpa using h)
      rw [hnew, if_neg fun hmem => h (List.mem_eraseDups.mp hmem)]
      rfl

variable {native} in
theorem mem_dexCode {isa : InstructionSet} :
    isa ∈ t.dexCode native ↔ isa ∈ native.map t.apply := by
  rw [dexCode_eq, List.mem_eraseDups]

theorem nodup_dexCode : (t.dexCode native).Nodup := by
  induction native using List.reverseRecOn with
  | nil => exact List.nodup_nil
  | append_singleton native isa ih =>
    rw [dexCode_concat, addNew]
    by_cases h : t.apply isa ∈ t.dexCode native
    · rwa [if_pos h]
    · rw [if_neg h, List.nodup_append]
      refine ⟨ih, List.nodup_singleton _, fun a ha b hb heq => h ?_⟩
      rwa [← List.mem_singleton.mp hb, ← heq]

/-- As many as there are different results. -/
theorem length_dexCode : (t.dexCode native).length = (native.map t.apply).toFinset.card := by
  rw [← List.toFinset_card_of_nodup (t.nodup_dexCode native)]
  congr 1
  ext isa
  rw [List.mem_toFinset, List.mem_toFinset, mem_dexCode]

/-! ### Their order -/

/-- The one translation comes first before the other one does. -/
def Before (t : Translation) (native : List InstructionSet) (a b : InstructionSet) : Prop :=
  (native.map t.apply).idxOf a < (native.map t.apply).idxOf b

variable {t native}

/-- What comes first somewhere in front still does when there is more behind. -/
theorem idxOf_append_of_translated {a : InstructionSet} (h : a ∈ t.dexCode native)
    (more : List InstructionSet) :
    ((native ++ more).map t.apply).idxOf a = (native.map t.apply).idxOf a := by
  rw [List.map_append]
  exact List.idxOf_append_of_mem (mem_dexCode t |>.mp h)

variable (t native) in
theorem pairwise_dexCode : (t.dexCode native).Pairwise (t.Before native) := by
  induction native using List.reverseRecOn with
  | nil => exact List.Pairwise.nil
  | append_singleton native isa ih =>
    have hfront : (t.dexCode native).Pairwise (t.Before (native ++ [isa])) := by
      refine ih.imp_of_mem fun {a b} ha hb hab => ?_
      show List.idxOf a _ < List.idxOf b _
      rwa [idxOf_append_of_translated ha, idxOf_append_of_translated hb]
    rw [dexCode_concat, addNew]
    by_cases h : t.apply isa ∈ t.dexCode native
    · rwa [if_pos h]
    · rw [if_neg h, List.pairwise_append]
      refine ⟨hfront, List.pairwise_singleton _ _, fun a ha b hb => ?_⟩
      obtain rfl := List.mem_singleton.mp hb
      have hnew : t.apply isa ∉ native.map t.apply := fun hmem => h ((mem_dexCode t).mpr hmem)
      have hlast : ((native ++ [isa]).map t.apply).idxOf (t.apply isa) = native.length := by
        rw [List.map_append, List.idxOf_append_of_notMem hnew]
        simp
      have hearlier : (native.map t.apply).idxOf a < native.length := by
        simpa using List.idxOf_lt_length_of_mem ((mem_dexCode t).mp ha)
      show List.idxOf a _ < List.idxOf _ _
      rw [idxOf_append_of_translated ha, hlast]
      exact hearlier

/-- No other list has the translations, each in front of those that come first behind it. -/
theorem eq_dexCode_iff (isas : List InstructionSet) :
    isas = t.dexCode native ↔
      (∀ isa, isa ∈ isas ↔ isa ∈ native.map t.apply) ∧ isas.Pairwise (t.Before native) := by
  constructor
  · rintro rfl
    exact ⟨fun isa => mem_dexCode t, t.pairwise_dexCode native⟩
  · rintro ⟨hmem, hpairwise⟩
    have hnodup : isas.Nodup := hpairwise.imp fun {a b} hab heq => (heq ▸ hab).false
    have hperm : isas.Perm (t.dexCode native) :=
      (List.perm_ext_iff_of_nodup hnodup (t.nodup_dexCode native)).mpr fun isa =>
        (hmem isa).trans (mem_dexCode t).symm
    refine hperm.eq_of_pairwise (fun a b _ _ hab hba => ?_) hpairwise (t.pairwise_dexCode native)
    exact absurd hba (Nat.lt_asymm hab)

/-! ### More to translate -/

theorem dexCode_append (before after : List InstructionSet) :
    t.dexCode (before ++ after) =
      after.foldl (fun seen isa => addNew seen (t.apply isa)) (t.dexCode before) := by
  rw [dexCode, List.foldl_append]
  rfl

theorem prefix_addNew (seen : List InstructionSet) (isa : InstructionSet) :
    seen <+: addNew seen isa := by
  rw [addNew]
  split
  · exact List.prefix_rfl
  · exact List.prefix_append _ _

variable (t) in
theorem dexCode_prefix (before after : List InstructionSet) :
    t.dexCode before <+: t.dexCode (before ++ after) := by
  induction after using List.reverseRecOn with
  | nil => rw [List.append_nil]
  | append_singleton after isa ih =>
    rw [← List.append_assoc, dexCode_concat]
    exact ih.trans (prefix_addNew _ _)

/-- What translates to the same as something in front of it changes nothing. -/
theorem dexCode_of_known {before : List InstructionSet} {isa : InstructionSet}
    (h : t.apply isa ∈ before.map t.apply) (after : List InstructionSet) :
    t.dexCode (before ++ isa :: after) = t.dexCode (before ++ after) := by
  have hseen : addNew (t.dexCode before) (t.apply isa) = t.dexCode before :=
    if_pos ((mem_dexCode t).mpr h)
  rw [dexCode_append, List.foldl_cons, hseen, ← dexCode_append]

/-- **Instruction sets compiled for.**  For every table, which an instruction set that it leaves out
passes as itself, and every list of native ones: the result is the list of translations without
those that were there before.  It has no repetitions and has exactly the translations, in the order
in which each comes first, and no other list has them so.  With more native ones behind, the result
only gets longer behind; a native one behind another one that translates to the same makes no
difference. -/
theorem dexCode_first_of_each (t : Translation) :
    let translated (isa : InstructionSet) : InstructionSet := (t.target isa).getD isa
    (∀ native, t.dexCode native = (native.map translated).eraseDups ∧
      (t.dexCode native).Nodup ∧
      (∀ isa, isa ∈ t.dexCode native ↔ ∃ n ∈ native, translated n = isa) ∧
      ∀ isas, isas = t.dexCode native ↔
        (∀ isa, isa ∈ isas ↔ isa ∈ native.map translated) ∧
        isas.Pairwise fun a b =>
          (native.map translated).idxOf a < (native.map translated).idxOf b) ∧
    (∀ native more, t.dexCode native <+: t.dexCode (native ++ more)) ∧
    ∀ before isa after, (∃ n ∈ before, translated n = translated isa) →
      t.dexCode (before ++ isa :: after) = t.dexCode (before ++ after) := by
  intro translated
  refine ⟨fun native => ⟨t.dexCode_eq native, t.nodup_dexCode native, fun isa => ?_,
    eq_dexCode_iff⟩, t.dexCode_prefix, fun before isa after hknown => ?_⟩
  · exact (mem_dexCode t).trans List.mem_map
  · exact dexCode_of_known (List.mem_map.mpr hknown) after

/-- Two native sets that change places, and one that stands for itself between them. -/
example : (Translation.ofList [(.arm, .x86), (.x86, .arm)]).dexCode [.arm, .x86, .arm64, .arm] =
    [.x86, .arm, .arm64] := by decide

end OtaCompile.Translation
