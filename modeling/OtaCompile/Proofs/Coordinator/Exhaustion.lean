import OtaCompile.Device.Scripted
import OtaCompile.Proofs.Coordinator.Protocol
import OtaCompile.Proofs.Coordinator.Trace

/-!
# The event that nothing is left

A session that had something left and has nothing left any more tells so in one event, except that
a call that comes to a fault tells nothing, even if its package was the last (`exhausted_told`).
What is left by such a call is told by no later one either, so a session whose last package fails
its check for space is exhausted without a word (`exhausted_untold`).
-/

namespace OtaCompile

open Procedure Session

/-- The number of packages, if it is told that nothing is left. -/
def Device.Exchange.exhausted? : Device.Exchange → Option Nat
  | ⟨.report (.session (.exhausted n)), _⟩ => some n
  | _ => none

/-- The events that nothing is left, each with its number of packages. -/
def exhaustions (ts : List Device.Exchange) : List Nat :=
  ts.filterMap Device.Exchange.exhausted?

@[simp] theorem exhaustions_append (ts ts' : List Device.Exchange) :
    exhaustions (ts ++ ts') = exhaustions ts ++ exhaustions ts' := List.filterMap_append ..

/-- Nothing that is asked or told of packages tells that nothing is left. -/
theorem exhaustions_packagePart (ts : List Device.Exchange) :
    exhaustions (packagePart ts) = [] := by
  refine List.filterMap_eq_nil_iff.mpr fun t ht => ?_
  have hpart := (List.mem_filter.mp ht).2
  unfold Device.Exchange.exhausted?
  split
  · cases hpart
  · rfl

namespace Coordinator

variable {c : Coordinator} {w w' : Work} {e : Entry} {vs : List (Visit c)} {s s' : Session}

/-! ## One call -/

@[simp] theorem exhaustions_visits (vs : List (Visit c)) :
    exhaustions (vs.flatMap Visit.exchanges) = [] := by
  rw [← packagePart_visits, exhaustions_packagePart]

theorem exhaustions_exhaustion {α : Type} (before after : Session) (r : Except Fault α) :
    exhaustions (exhaustion before after r) =
      match r with
      | .ok _ => if before.Ends after then [after.total] else []
      | .error _ => [] := by
  cases r with
  | error f => rfl
  | ok a =>
    simp only [exhaustion]
    split <;> rfl

/-- What a call is to tell: that nothing is left, if it leaves nothing and comes to no fault. -/
def due (before after : Session) (a : Answer) : List Nat :=
  if before.Ends after ∧ a.fault? = none then [before.total] else []

theorem due_of_not_ends (h : ¬ s.Ends s') (a : Answer) : due s s' a = [] :=
  if_neg fun hdue => h hdue.1

theorem due_of_ends (h : s.Ends s') (a : Answer) :
    due s s' a = if a.fault? = none then [s.total] else [] := by
  simp only [due, h, true_and]

theorem not_ends_self (s : Session) : ¬ s.Ends s := fun h => nomatch h.1.symm.trans h.2

theorem due_of_fault {a : Answer} {f : Fault} (ha : a.fault? = some f) : due s s' a = [] := by
  rw [due, ha]
  exact if_neg fun h => nomatch h.2

theorem Step.exhaustions_eq (h : Step c w e vs w') :
    exhaustions e.exchanges = due (.prepared w) (.prepared w') e.answer := by
  have htotal := h.total_eq
  cases h with
  | @next w w' vs r h hmode =>
    rw [exhaustions_append, exhaustions_visits, exhaustions_exhaustion]
    cases r with
    | error f => exact (due_of_fault rfl).symm
    | ok command => simp [due, Answer.fault?, Session.total, htotal]
  | compile v current total hremaining hmode =>
    have hvisit := exhaustions_visits [v]
    rw [List.flatMap_singleton] at hvisit
    rw [exhaustions_append, hvisit, exhaustions_exhaustion]
    cases v.result with
    | error f => exact (due_of_fault rfl).symm
    | ok commands => simp [due, Except.map, Answer.fault?, Session.total]
  | idle current total => exact (due_of_not_ends (not_ends_self _) _).symm

/-- Nothing is left for good. -/
theorem Step.isDone (h : Step c w e vs w') (hw : w.isDone = true) : w'.isDone = true := by
  cases h with
  | next h hmode => exact h.isDone hw
  | compile v current total hremaining hmode => cases hw
  | idle current total => exact hw

/-- What calls other than `cleanup` do with a prepared session. -/
theorem Made.goes_on (h : Made c (.prepared w) e s') (he : e.call ≠ .cleanup) :
    ∃ w', s' = .prepared w' ∧ w'.total = w.total ∧ (w.isDone = true → w'.isDone = true) ∧
      exhaustions e.exchanges = due (.prepared w) (.prepared w') e.answer ∧
      ((Session.prepared w).Ends (.prepared w') → ∃ t, e.call = .take t) := by
  rcases h.step_or_nothing he with ⟨t, vs, w', ht, rfl, hstep⟩ | ⟨hexchanges, -, rfl⟩
  · exact ⟨w', rfl, hstep.total_eq, hstep.isDone, hstep.exhaustions_eq, fun _ => ⟨t, ht⟩⟩
  · have hends := not_ends_self (Session.prepared w)
    refine ⟨w, rfl, rfl, id, ?_, fun h => absurd h hends⟩
    rw [hexchanges, due_of_not_ends hends]
    rfl

/-! ## Many calls -/

/-- The events that nothing is left, told by calls made one after the other. -/
def exhaustionsOf (es : List Entry) : List Nat := es.flatMap fun e => exhaustions e.exchanges

@[simp] theorem exhaustionsOf_cons (e : Entry) (es : List Entry) :
    exhaustionsOf (e :: es) = exhaustions e.exchanges ++ exhaustionsOf es := List.flatMap_cons ..

variable {σ : Type} (answer : (q : Device.Request) → σ → Device.Reply q × σ)

theorem make_goes_on {k : Call} (hk : k ≠ .cleanup) (hw : (Session.prepared w).Settled) (x : σ) :
    let run := (c.make (.prepared w) k).run answer x
    ∃ w', run.1.2 = .prepared w' ∧ (Session.prepared w').Settled ∧ w'.total = w.total ∧
      (w.isDone = true → w'.isDone = true) ∧
      exhaustions ((c.make (.prepared w) k).transcript answer x) =
        due (.prepared w) (.prepared w') run.1.1 ∧
      ((Session.prepared w).Ends (.prepared w') → ∃ t, k = .take t) := by
  intro run
  have hmade := made (c := c) answer k hw x
  obtain ⟨w', hafter, hrest⟩ := hmade.goes_on hk
  have hsettled := hmade.settled hw
  rw [hafter] at hsettled
  exact ⟨w', hafter, hsettled, hrest⟩

theorem ends_prepared_iff :
    (Session.prepared w).Ends (.prepared w') ↔ ¬ w.isDone = true ∧ w'.isDone = true := by
  rw [Session.Ends, Session.lifecycle_eq_active_iff, Session.lifecycle_eq_exhausted_iff]

/-- With nothing left no call tells so again. -/
theorem exhaustionsOf_of_isDone {ks : List Call} (hks : .cleanup ∉ ks)
    (hw : (Session.prepared w).Settled) (hdone : w.isDone = true) (x : σ) :
    (afterAll answer c ks (.prepared w) x).1.lifecycle = .exhausted ∧
      exhaustionsOf (history answer c ks (.prepared w) x) = [] := by
  induction ks generalizing w x with
  | nil => exact ⟨(lifecycle_eq_exhausted_iff w).mpr hdone, rfl⟩
  | cons k ks ih =>
    rw [List.mem_cons, not_or] at hks
    obtain ⟨w', hafter, hw', -, hdone', htold, -⟩ := make_goes_on answer (Ne.symm hks.1) hw x
    obtain ⟨hlast, hnone⟩ :=
      ih hks.2 hw' (hdone' hdone) ((c.make (.prepared w) k).run answer x).2
    have hends : ¬ (Session.prepared w).Ends (.prepared w') :=
      fun h => (ends_prepared_iff.mp h).1 hdone
    rw [afterAll, history, hafter, exhaustionsOf_cons, htold, due_of_not_ends hends]
    exact ⟨hlast, hnone⟩

/-- As long as something is left nothing is told, and one call leaves nothing. -/
theorem exhaustionsOf_of_not_isDone {ks : List Call} (hks : .cleanup ∉ ks)
    (hw : (Session.prepared w).Settled) (hdone : ¬ w.isDone = true) (x : σ) :
    let last := (afterAll answer c ks (.prepared w) x).1
    let told := exhaustionsOf (history answer c ks (.prepared w) x)
    last.lifecycle = .active ∧ told = [] ∨
      last.lifecycle = .exhausted ∧ ∃ ks₁ t ks₂, ks = ks₁ ++ .take t :: ks₂ ∧
        let behind := afterAll answer c ks₁ (.prepared w) x
        let run := (c.take behind.1 t).run answer behind.2
        behind.1.Ends run.1.2 ∧ told = if run.1.1.fault? = none then [w.total] else [] := by
  induction ks generalizing w x with
  | nil => exact .inl ⟨(lifecycle_eq_active_iff w).mpr hdone, rfl⟩
  | cons k ks ih =>
    rw [List.mem_cons, not_or] at hks
    obtain ⟨w', hafter, hw', htotal, -, htold, htake⟩ := make_goes_on answer (Ne.symm hks.1) hw x
    rw [afterAll, history, exhaustionsOf_cons, htold, hafter]
    -- either this call is the one that leaves nothing, or one of the calls behind it is
    by_cases hdone' : w'.isDone = true
    · have hends : (Session.prepared w).Ends (.prepared w') := ends_prepared_iff.mpr ⟨hdone, hdone'⟩
      obtain ⟨t, rfl⟩ := htake hends
      obtain ⟨hlast, hnone⟩ := exhaustionsOf_of_isDone (c := c) answer hks.2 hw' hdone'
        ((c.make (.prepared w) (.take t)).run answer x).2
      refine .inr ⟨hlast, [], t, ks, rfl, ?_, ?_⟩
      · exact hafter ▸ hends
      · rw [hnone, List.append_nil, due_of_ends hends]
        rfl
    · have hends : ¬ (Session.prepared w).Ends (.prepared w') :=
        fun h => hdone' (ends_prepared_iff.mp h).2
      rw [due_of_not_ends hends, List.nil_append]
      rcases ih hks.2 hw' hdone' ((c.make (.prepared w) k).run answer x).2 with
        ⟨hlast, hnone⟩ | ⟨hlast, ks₁, t, ks₂, rfl, hends, htold⟩
      · exact .inl ⟨hlast, hnone⟩
      · refine .inr ⟨hlast, k :: ks₁, t, ks₂, rfl, ?_⟩
        rw [afterAll, hafter]
        rw [htotal] at htold
        exact ⟨hends, htold⟩

/-- A session that is prepared counts the packages of the registry. -/
def Counted (c : Coordinator) (s : Session) : Prop :=
  ∀ w, s = .prepared w → w.total = c.registry.forDexopt.length

theorem Made.counted (h : Made c s e s') (hs : c.Counted s) : c.Counted s' := by
  cases h with
  | misused h ha => exact hs
  | prepared =>
    rintro w ⟨⟩
    rfl
  | cleanedUp s => exact nofun
  | isDone w => exact hs
  | progress w => exact hs
  | status s => exact hs
  | relocated h => exact hs
  | @taken w w' t ts a vs h =>
    rintro w'' ⟨⟩
    exact h.total_eq.trans (hs w rfl)

theorem counted_afterAll (ks : List Call) (hsettled : s.Settled) (hs : c.Counted s) (x : σ) :
    c.Counted (afterAll answer c ks s x).1 :=
  kept_afterAll answer Made.counted ks hsettled hs x

/-- What a call that may take packages tells, in any session. -/
theorem exhaustions_take (t : Take) (hs : s.Settled) (hcounted : c.Counted s) (x : σ) :
    let run := (c.take s t).run answer x
    exhaustions ((c.take s t).transcript answer x) =
      if s.Ends run.1.2 ∧ run.1.1.fault? = none then [c.registry.forDexopt.length] else [] := by
  intro run
  cases s with
  | idle =>
    have hends : ∀ s', ¬ Session.idle.Ends s' := by
      rintro s' ⟨⟨⟩, -⟩
    rw [if_neg fun h => hends _ h.1]
    cases t <;> rfl
  | prepared w =>
    obtain ⟨w', hafter, -, -, -, htold, -⟩ :=
      make_goes_on (c := c) answer (k := .take t) nofun hs x
    rw [← hcounted w rfl, show run.1.2 = .prepared w' from hafter]
    exact htold

/-- **The event that nothing is left.**  Whatever the device answers: a call for commands or to
compile, behind any calls, tells once that nothing is left, with the number of packages that the
session was prepared with, if something was left before it and nothing is behind it and it comes to
no fault, and else not at all.  Hence a session of at least one package tells nothing of the kind as
long as something is left; one call leaves nothing, and the session has told so once if that call
came to no fault, and else never. -/
theorem exhausted_told (c : Coordinator) (x : σ) :
    let n := c.registry.forDexopt.length
    (∀ (before : List Call) (t : Take),
      let behind := afterAll answer c before .new x
      let run := (c.take behind.1 t).run answer behind.2
      exhaustions ((c.take behind.1 t).transcript answer behind.2) =
        if behind.1.Ends run.1.2 ∧ run.1.1.fault? = none then [n] else []) ∧
    ∀ ks : List Call, .cleanup ∉ ks → c.registry.forDexopt ≠ [] →
      let last := (afterAll answer c (.prepare :: ks) .new x).1
      let told := exhaustionsOf (history answer c (.prepare :: ks) .new x)
      last.lifecycle = .active ∧ told = [] ∨
        last.lifecycle = .exhausted ∧ ∃ ks₁ t ks₂, ks = ks₁ ++ .take t :: ks₂ ∧
          let behind := afterAll answer c (.prepare :: ks₁) .new x
          let run := (c.take behind.1 t).run answer behind.2
          behind.1.Ends run.1.2 ∧ told = if run.1.1.fault? = none then [n] else [] := by
  intro n
  have hnew : Session.new.Settled := trivial
  refine ⟨?_, ?_⟩
  · intro before t behind run
    exact exhaustions_take answer t (settled_afterAll answer before hnew x)
      (counted_afterAll answer before hnew nofun x) behind.2
  · intro ks hks hne
    have hsettled : (Session.begun c.registry.forDexopt).Settled := nofun
    have hdone : ¬ (⟨c.registry.forDexopt, none, n⟩ : Work).isDone = true := by
      cases hpackages : c.registry.forDexopt with
      | nil => exact absurd hpackages hne
      | cons p packages => exact nofun
    exact exhaustionsOf_of_not_isDone answer hks hsettled hdone
      ((c.make .new .prepare).run answer x).2

/-! ### A session that ends without a word -/

/-- Behind some calls, the next one leaves nothing, and no call has told so. -/
def EndsUntold (c : Coordinator) (before : List Call) (t : Take) (x : Device.Scripted) : Prop :=
  let behind := afterAll Device.Scripted.answer c before .new x
  let run := (c.take behind.1 t).run Device.Scripted.answer behind.2
  behind.1.Ends run.1.2 ∧
    exhaustionsOf (history Device.Scripted.answer c (before ++ [.take t]) .new x) = []
deriving Decidable

/-- A coordinator for one package. -/
def onePackage : Coordinator where
  registry := .ofList [{ name := "a" }]
  generator := ⟨⟨⟨"/data"⟩⟩⟩
  relocator := { immutablePartitions := [] }

/-- A device whose volume has a threshold of zero. -/
def thresholdZero : Device.Scripted := { threshold := ⟨.ok 0, []⟩ }

/-- If the check of the last package fails, the session ends without a word, in either mode. -/
theorem exhausted_untold :
    onePackage.EndsUntold [.prepare] .next thresholdZero ∧
      onePackage.EndsUntold [.prepare] .nextPackage thresholdZero := by
  decide

end Coordinator

end OtaCompile
