import Mathlib.Algebra.Order.Field.Basic
import Mathlib.Algebra.Order.Field.Rat
import OtaCompile.Proofs.Session.History

/-!
# Progress

`Reachable` are the sessions that calls of any kind lead to, whoever answers.  A reachable session
that is prepared has no more packages unfinished than it took over, and no empty queue (`Sound`).
A call never adds an unfinished package (`Step.unfinished_le`), although the count is made of two
queues that change together.  From this follows what is told of progress (`progress_law`).
-/

namespace OtaCompile

/-- The exact fraction, before it is rounded. -/
def Progress.fraction (p : Progress) : ℚ := p.completed / p.total

namespace Session

/-! ## Reachable sessions -/

inductive Call
  | prepare (snapshot : List Package)
  | cleanup
  | take (t : Take)
deriving DecidableEq, Repr

/-- The session that a call leaves. -/
def Call.after {σ : Type} (answer : (q : Request) → σ → Reply q × σ) (x : σ) (s : Session) :
    Call → Session
  | .prepare snapshot => (Id.run (s.prepare (pure snapshot))).2
  | .cleanup => s.cleanup
  | .take t => (call answer t s x).2.1

inductive Reachable : Session → Prop
  | new : Reachable new
  | call {σ : Type} (answer : (q : Request) → σ → Reply q × σ) (x : σ) (c : Call) {s : Session}
    (h : Reachable s) : Reachable (c.after answer x s)

/-! ## The invariant -/

/-- What is true of the work of a session between calls. -/
structure Sound (w : Work) : Prop where
  current_ne : w.current ≠ some []
  unfinished_le : w.unfinished ≤ w.total

theorem sound_begun (snapshot : List Package) : Sound ⟨snapshot, none, snapshot.length⟩ where
  current_ne := nofun
  unfinished_le := Nat.le_refl _

variable {w w' : Work}

/-- Only one package is served at a time. -/
theorem serving_le (current : Option (List Command)) : (if current.isSome then 1 else 0) ≤ 1 := by
  split <;> omega

theorem Next.unfinished_le {gs : List Generated} {r : Except Fault NextCommand}
    (h : Next w gs r w') : w'.unfinished ≤ w.unfinished := by
  induction h with
  | serve pending c queue total =>
    have := serving_le (Work.queueOf queue)
    simp only [Work.unfinished, Option.isSome_some, if_true]
    omega
  | finish total => exact Nat.le_refl _
  | fail p pending f total =>
    simp only [Work.unfinished, List.length_cons]
    omega
  | @pass p pending commands total gs r w h ih =>
    -- the package taken is at most replaced by the one being served
    have := serving_le (Work.queueOf commands)
    simp only [Work.unfinished, List.length_cons] at ih ⊢
    omega

theorem Step.unfinished_le {e : Entry} (h : Step w e w') : w'.unfinished ≤ w.unfinished := by
  cases h with
  | next h => exact h.unfinished_le
  | pop p pending current total =>
    simp only [Work.unfinished, List.length_cons]
    omega
  | popNone current total => exact Nat.le_refl _

theorem Step.sound {e : Entry} (h : Step w e w') (hw : Sound w) : Sound w' where
  current_ne := h.current_ne hw.current_ne
  unfinished_le := by
    rw [h.total_eq]
    exact h.unfinished_le.trans hw.unfinished_le

/-- A call other than `cleanup` leaves the session prepared, by a step or as it was. -/
theorem after_prepared {σ : Type} (answer : (q : Request) → σ → Reply q × σ) (x : σ) {c : Call}
    (hc : c ≠ .cleanup) (hw : w.current ≠ some []) :
    ∃ w', c.after answer x (prepared w) = prepared w' ∧ (w' = w ∨ ∃ e, Step w e w') := by
  cases c with
  | prepare snapshot => exact ⟨w, rfl, .inl rfl⟩
  | cleanup => exact absurd rfl hc
  | take t =>
    obtain ⟨w', hafter, hstep⟩ := call_step answer t hw x
    exact ⟨w', hafter, .inr ⟨_, hstep⟩⟩

/-- An idle session is prepared by `prepare` alone. -/
theorem after_idle {σ : Type} (answer : (q : Request) → σ → Reply q × σ) (x : σ) (c : Call) :
    c.after answer x idle = idle ∨ ∃ snapshot, c.after answer x idle = begun snapshot := by
  cases c with
  | prepare snapshot => exact .inr ⟨snapshot, rfl⟩
  | cleanup => exact .inl rfl
  | take t => cases t <;> exact .inl rfl

theorem reachable_sound {s : Session} (hs : Reachable s) : ∀ w, s = prepared w → Sound w := by
  induction hs with
  | new => exact nofun
  | @call σ answer x c s hs ih =>
    intro w hw
    cases s with
    | idle =>
      rcases after_idle answer x c with h | ⟨snapshot, h⟩
      · rw [h] at hw
        cases hw
      · rw [h] at hw
        cases hw
        exact sound_begun snapshot
    | prepared w₀ =>
      have hw₀ := ih w₀ rfl
      by_cases hc : c = .cleanup
      · subst hc
        cases hw
      · obtain ⟨w', hafter, hstep⟩ := after_prepared answer x hc hw₀.current_ne
        rw [hafter] at hw
        cases hw
        rcases hstep with rfl | ⟨e, hstep⟩
        · exact hw₀
        · exact hstep.sound hw₀

/-! ## The fraction -/

theorem progress_of_no_package (htotal : w.total = 0) : w.progress = ⟨1, 1⟩ := if_pos htotal

theorem progress_of_package (htotal : w.total ≠ 0) :
    w.progress = ⟨w.total - w.unfinished, w.total⟩ := if_neg htotal

/-- Nothing is cut off where the unfinished packages are taken from all. -/
theorem completed_add_unfinished (hw : Sound w) (htotal : w.total ≠ 0) :
    w.progress.completed + w.unfinished = w.total := by
  rw [progress_of_package htotal]
  exact Nat.sub_add_cancel hw.unfinished_le

theorem completed_le (w : Work) : w.progress.completed ≤ w.progress.total := by
  unfold Work.progress
  split
  · exact Nat.le_refl 1
  · exact Nat.sub_le _ _

theorem total_pos (w : Work) : 0 < w.progress.total := by
  unfold Work.progress
  split
  · exact Nat.one_pos
  · exact Nat.pos_of_ne_zero ‹_›

theorem fraction_nonneg (p : Progress) : 0 ≤ p.fraction :=
  div_nonneg (Nat.cast_nonneg _) (Nat.cast_nonneg _)

theorem fraction_le_one (w : Work) : w.progress.fraction ≤ 1 :=
  div_le_one_of_le₀ (Nat.cast_le.mpr (completed_le w)) (Nat.cast_nonneg _)

theorem fraction_mono (htotal : w'.total = w.total) (h : w'.unfinished ≤ w.unfinished) :
    w.progress.fraction ≤ w'.progress.fraction := by
  have hcompleted : w.progress.completed ≤ w'.progress.completed := by
    unfold Work.progress
    rw [htotal]
    split
    · exact Nat.le_refl 1
    · exact Nat.sub_le_sub_left h _
  have hsame : w'.progress.total = w.progress.total := by
    unfold Work.progress
    rw [htotal]
    split <;> rfl
  unfold Progress.fraction
  rw [hsame]
  exact div_le_div_of_nonneg_right (Nat.cast_le.mpr hcompleted) (Nat.cast_nonneg _)

theorem unfinished_eq_zero_iff (w : Work) : w.unfinished = 0 ↔ w.isDone = true := by
  obtain ⟨pending, current, total⟩ := w
  cases pending <;> cases current <;> simp [Work.unfinished, Work.isDone]

theorem fraction_eq_one_iff (hw : Sound w) : w.progress.fraction = 1 ↔ w.isDone = true := by
  have hpos : (w.progress.total : ℚ) ≠ 0 := Nat.cast_ne_zero.mpr (total_pos w).ne'
  have hle := hw.unfinished_le
  rw [Progress.fraction, div_eq_one_iff_eq hpos, Nat.cast_inj, ← unfinished_eq_zero_iff]
  by_cases htotal : w.total = 0
  · rw [progress_of_no_package htotal]
    exact iff_of_true rfl (by omega)
  · have := completed_add_unfinished hw htotal
    rw [progress_of_package htotal] at this ⊢
    simp only at this ⊢
    omega

/-- **Progress.**  In every reachable session that is prepared, the packages unfinished are at most
those taken over, so that no difference is cut off and the fraction lies between 0 and 1; it is 1
exactly when the session is done; and no call but `cleanup` makes it smaller.  It begins at 0 if
there is any package. -/
theorem progress_law (hw : Reachable (prepared w)) :
    (prepared w).progress = .ok w.progress ∧
    w.pending.length + (if w.current.isSome then 1 else 0) ≤ w.total ∧
    (w.total = 0 → w.progress.fraction = 1) ∧
    (w.total ≠ 0 → w.progress.total = w.total ∧ (w.progress.completed : ℤ) =
      w.total - (w.pending.length + if w.current.isSome then 1 else 0)) ∧
    0 ≤ w.progress.fraction ∧ w.progress.fraction ≤ 1 ∧
    (w.progress.fraction = 1 ↔ (prepared w).isDone = .ok true) ∧
    (∀ {σ : Type} (answer : (q : Request) → σ → Reply q × σ) (x : σ) (c : Call), c ≠ .cleanup →
      ∃ w', c.after answer x (prepared w) = prepared w' ∧
        w.progress.fraction ≤ w'.progress.fraction) ∧
    ∀ snapshot : List Package, snapshot ≠ [] →
      ∃ p, (begun snapshot).progress = .ok p ∧ p.fraction = 0 := by
  have hsound := reachable_sound hw w rfl
  refine ⟨rfl, hsound.unfinished_le, ?_, ?_, fraction_nonneg _, fraction_le_one w, ?_, ?_, ?_⟩
  · intro htotal
    simp [Work.progress, htotal, Progress.fraction]
  · intro htotal
    have hcompleted := completed_add_unfinished hsound htotal
    refine ⟨congrArg Progress.total (progress_of_package htotal), ?_⟩
    rw [Work.unfinished] at hcompleted
    push_cast [← hcompleted]
    omega
  · rw [fraction_eq_one_iff hsound, isDone, Except.ok.injEq]
  · intro σ answer x c hc
    obtain ⟨w', hafter, hstep⟩ := after_prepared answer x hc hsound.current_ne
    refine ⟨w', hafter, ?_⟩
    rcases hstep with rfl | ⟨e, hstep⟩
    · exact le_refl _
    · exact fraction_mono hstep.total_eq hstep.unfinished_le
  · intro snapshot hne
    have hlength : snapshot.length ≠ 0 := fun h => hne (List.length_eq_zero_iff.mp h)
    refine ⟨⟨0, snapshot.length⟩, ?_, ?_⟩
    · rw [begun_eq, progress, progress_of_package hlength]
      simp [Work.unfinished]
    · simp [Progress.fraction]

/-- One of two packages is being served, so nothing is finished yet. -/
theorem progress_law_of_serving :
    Reachable (prepared ⟨[{ name := "b" }], some [⟨"a2"⟩], 2⟩) ∧
      (⟨[{ name := "b" }], some [⟨"a2"⟩], 2⟩ : Work).progress.fraction ≠ 1 := by
  have h : Reachable (prepared ⟨[{ name := "b" }], some [⟨"a2"⟩], 2⟩) :=
    .call (fun _ x => (.ok [⟨"a1"⟩, ⟨"a2"⟩], x)) () (.take .next)
      (.call (fun _ x => (.ok [], x)) () (.prepare [{ name := "a" }, { name := "b" }]) .new)
  obtain ⟨-, -, -, -, -, -, hdone, -⟩ := progress_law h
  exact ⟨h, fun hone => absurd (hdone.mp hone) nofun⟩

end Session

end OtaCompile
