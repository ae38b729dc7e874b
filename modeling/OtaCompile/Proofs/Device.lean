import OtaCompile.Proofs.Dialogue
import OtaCompile.Generation

/-!
# Procedures on devices

What procedures do on a device of any kind, or on one of these kinds.  A device is `Deaf` if it is
the same behind a report as in front of it; on such a device procedures that differ in events of the
session alone are `Alike`.  `Device.serving` is put together from storage that answers as it likes,
from a state of its own, a policy that remembers nothing, and whatever answers the rest, and
`Device.granting` from such storage, such a policy and a backend that refuses nothing; what asks
about volumes alone, such as a check for space, depends on the storage alone (`run_serving`,
`run_granting`).
-/

namespace OtaCompile

variable {α σ β : Type}

/-! ## Any device -/

/-- A request with its reply. -/
abbrev Device.Exchange := (q : Device.Request) × Device.Reply q

namespace Procedure

section Leads

variable {ts : List Device.Exchange} {e : Event}

theorem leads_emit {f : Unit → Procedure α} {a : α} (h : (emit e >>= f).Leads ts a) :
    ∃ ts', ts = ⟨.report e, ()⟩ :: ts' ∧ (f ()).Leads ts' a := by
  obtain ⟨⟨⟩, ts', rfl, hf⟩ := Dialogue.leads_question.mp h
  exact ⟨ts', rfl, hf⟩

theorem leads_emit_pure {a b : α} (h : (emit e >>= fun _ => pure a).Leads ts b) :
    ts = [⟨.report e, ()⟩] ∧ b = a := by
  obtain ⟨ts', rfl, hend⟩ := leads_emit h
  obtain ⟨rfl, rfl⟩ := Dialogue.leads_pure.mp hend
  exact ⟨rfl, rfl⟩

end Leads

variable (answer : (q : Device.Request) → σ → Device.Reply q × σ)

theorem run_onBackend (t : Backend.Talk α) (x : σ) :
    (onBackend t).run answer x = t.run (fun q => answer (.backend q)) x :=
  Dialogue.run_through answer _ t x

theorem asked_onBackend (t : Backend.Talk α) (x : σ) :
    (onBackend t).asked answer x =
      (t.asked (fun q => answer (.backend q)) x).map Device.Request.backend := by
  induction t generalizing x with
  | done a => rfl
  | ask q next ih => exact congrArg (Device.Request.backend q :: ·) (ih _ _)

end Procedure

namespace Device

/-- Reports leave the device as it is. -/
def Deaf (answer : (q : Request) → σ → Reply q × σ) : Prop :=
  ∀ e x, (answer (.report e) x).2 = x

/-! ## Up to events of the session -/

/-- An event of the session, not of a package. -/
def Request.isSessionEvent : Request → Bool
  | .report (.session _) => true
  | _ => false

/-- Requests without the events of the session. -/
def apart (qs : List Request) : List Request := qs.filter fun q => !q.isSessionEvent

@[simp] theorem apart_append (qs qs' : List Request) : apart (qs ++ qs') = apart qs ++ apart qs' :=
  List.filter_append ..

/-- What is not seen of events of the session is not seen of leaving them out. -/
theorem filterMap_apart {f : Request → Option α} (hf : ∀ e : SessionEvent, f (.report e) = none)
    (qs : List Request) : (apart qs).filterMap f = qs.filterMap f := by
  rw [apart, List.filterMap_filter]
  refine congrArg (qs.filterMap ·) (funext fun q => ?_)
  cases hq : q.isSessionEvent with
  | false => rfl
  | true =>
    unfold Request.isSessionEvent at hq
    split at hq
    · exact (hf _).symm
    · cases hq

end Device

namespace Procedure

variable {answer : (q : Device.Request) → σ → Device.Reply q × σ}

/-- Two procedures come to the same, and what they ask differs in events of the session alone. -/
def Alike (answer : (q : Device.Request) → σ → Device.Reply q × σ) (p q : Procedure α) : Prop :=
  ∀ x, p.run answer x = q.run answer x ∧
    Device.apart (p.asked answer x) = Device.apart (q.asked answer x)

theorem Alike.refl (p : Procedure α) : Alike answer p p := fun _ => ⟨rfl, rfl⟩

theorem Alike.of_eq {p q : Procedure α} (h : p = q) : Alike answer p q := h ▸ .refl p

theorem Alike.symm {p q : Procedure α} (h : Alike answer p q) : Alike answer q p :=
  fun x => ⟨(h x).1.symm, (h x).2.symm⟩

theorem Alike.trans {p q r : Procedure α} (h : Alike answer p q) (h' : Alike answer q r) :
    Alike answer p r :=
  fun x => ⟨(h x).1.trans (h' x).1, (h x).2.trans (h' x).2⟩

theorem Alike.bind {p q : Procedure α} {f g : α → Procedure β} (h : Alike answer p q)
    (hf : ∀ a, Alike answer (f a) (g a)) : Alike answer (p >>= f) (q >>= g) := by
  intro x
  obtain ⟨hrun, hasked⟩ := h x
  simp only [Dialogue.run_bind, Dialogue.asked_bind, Device.apart_append, hrun, hasked]
  obtain ⟨hrun', hasked'⟩ := hf (q.run answer x).1 (q.run answer x).2
  exact ⟨hrun', congrArg _ hasked'⟩

theorem Alike.map {p q : Procedure α} (h : Alike answer p q) (f : α → β) :
    Alike answer (f <$> p) (f <$> q) := by
  rw [map_eq_pure_bind, map_eq_pure_bind]
  exact h.bind fun a => .refl _

/-- An event of the session may be left out. -/
theorem alike_emit (hdeaf : Device.Deaf answer) (e : SessionEvent) :
    Alike answer (emit e) (pure ()) :=
  fun x => ⟨Prod.ext rfl (hdeaf e x), rfl⟩

/-- What asks for nothing but events of the session may be left out. -/
theorem Alike.bind_of_pure {p : Procedure Unit} (h : Alike answer p (pure ()))
    (q : Procedure α) : Alike answer (p >>= fun _ => q) q :=
  h.bind fun _ => .refl q

/-- What is not seen of events of the session is asked by both. -/
theorem Alike.filterMap_asked {p q : Procedure α} (h : Alike answer p q)
    {f : Device.Request → Option β} (hf : ∀ e : SessionEvent, f (.report e) = none) (x : σ) :
    (p.asked answer x).filterMap f = (q.asked answer x).filterMap f := by
  rw [← Device.filterMap_apart hf, (h x).2, Device.filterMap_apart hf]

end Procedure

namespace Device

/-! ## Devices that grant -/

/-- A volume: what it says of its space may depend on what it was asked before. -/
structure Storage (σ : Type) where
  threshold : Path → σ → Except PlatformFault UInt64 × σ
  usable : Path → σ → Except PlatformFault UInt64 × σ

/-- A device with any storage, a policy that remembers nothing, and anything that answers the rest;
reports are only heard. -/
def serving (storage : Storage σ) (policy : Policy) (rest : (q : Request) → β → Reply q × β) :
    (q : Request) → σ × β → Reply q × σ × β
  | .threshold v, (x, y) => ((storage.threshold v x).1, (storage.threshold v x).2, y)
  | .usable v, (x, y) => ((storage.usable v x).1, (storage.usable v x).2, y)
  | .policy q, z => (policy.answer q, z)
  | .report _, z => ((), z)
  | q, (x, y) => ((rest q y).1, x, (rest q y).2)

/-- A device with any storage, a policy that remembers nothing, and a backend that refuses nothing:
`yes` says what it answers to questions about profiles. -/
def granting (storage : Storage σ) (policy : Policy) (yes : Backend.Request → β → Bool × β) :
    (q : Request) → σ × β → Reply q × σ × β
  | .threshold v, (x, y) => ((storage.threshold v x).1, (storage.threshold v x).2, y)
  | .usable v, (x, y) => ((storage.usable v x).1, (storage.usable v x).2, y)
  | .move _ _ _, z => (.ok .notStaged, z)
  | .policy q, z => (policy.answer q, z)
  | .backend q, (x, y) => (Backend.grant (yes q y).1 q, x, (yes q y).2)
  | .lock, z | .unlock, z | .report _, z => ((), z)

section Parts

variable (storage : Storage σ) (policy : Policy)

section Serving

variable (rest : (q : Request) → β → Reply q × β)

@[simp] theorem serving_report (e : Event) (z : σ × β) :
    serving storage policy rest (.report e) z = ((), z) := rfl

@[simp] theorem serving_policy (q : Policy.Request) (z : σ × β) :
    serving storage policy rest (.policy q) z = (policy.answer q, z) := rfl

theorem deaf_serving : Deaf (serving storage policy rest) := fun _ _ => rfl

end Serving

variable (yes : Backend.Request → β → Bool × β)

@[simp] theorem granting_report (e : Event) (z : σ × β) :
    granting storage policy yes (.report e) z = ((), z) := rfl

@[simp] theorem granting_policy (q : Policy.Request) (z : σ × β) :
    granting storage policy yes (.policy q) z = (policy.answer q, z) := rfl

/-- All but the storage of a device that grants. -/
def granter (policy : Policy) (yes : Backend.Request → β → Bool × β) :
    (q : Request) → β → Reply q × β
  | .threshold _, y | .usable _, y => (.ok 0, y)
  | .move _ _ _, y => (.ok .notStaged, y)
  | .policy q, y => (policy.answer q, y)
  | .backend q, y => (Backend.grant (yes q y).1 q, (yes q y).2)
  | .lock, y | .unlock, y | .report _, y => ((), y)

theorem granting_eq :
    granting storage policy yes = serving storage policy (granter policy yes) := by
  funext q z
  cases q <;> rfl

theorem deaf_granting : Deaf (granting storage policy yes) := fun _ _ => rfl

end Parts

end Device

namespace Procedure

variable (storage : Device.Storage σ) (policy : Policy) (yes : Backend.Request → β → Bool × β)

/-- What is said to the backend is of no matter to the storage. -/
theorem run_onBackend_granting (t : Backend.Talk α) (x : σ) (y : β) :
    ((onBackend t).run (Device.granting storage policy yes) (x, y)).2.1 = x := by
  induction t generalizing y with
  | done a => rfl
  | ask q next ih => exact ih _ _

end Procedure

/-! ## Storage -/

namespace Device

/-- A question about a volume. -/
def Request.isStorage : Request → Bool
  | .threshold _ | .usable _ => true
  | _ => false

/-- The storage of a device without the rest. -/
def Storage.alone (storage : Storage σ) : (q : Request) → σ → Reply q × σ
  | .threshold v, x => storage.threshold v x
  | .usable v, x => storage.usable v x
  | .move _ _ _, x => (.ok .notStaged, x)
  | .policy q, x => (({} : StandardPolicy).toPolicy.answer q, x)
  | .backend q, x => (Backend.grant true q, x)
  | .lock, x | .unlock, x | .report _, x => ((), x)

variable (storage : Storage σ) (policy : Policy) {p : Procedure α} {V : α → Prop}

section Serving

variable (rest : (q : Request) → β → Reply q × β)

/-- The storage answers for the device, and the rest stays as it is. -/
theorem serving_of_isStorage {q : Request} (hq : q.isStorage = true) (x : σ) (y : β) :
    serving storage policy rest q (x, y) = ((storage.alone q x).1, (storage.alone q x).2, y) := by
  cases q with
  | threshold v => rfl
  | usable v => rfl
  | move codePath isa dir => cases hq
  | policy q => cases hq
  | backend q => cases hq
  | lock => cases hq
  | unlock => cases hq
  | report e => cases hq

/-- A procedure that asks about volumes alone leaves the rest of the device as it is. -/
theorem run_serving (hp : p.Within (fun q => q.isStorage = true) V) (x : σ) (y : β) :
    p.run (serving storage policy rest) (x, y) =
      ((p.run storage.alone x).1, (p.run storage.alone x).2, y) := by
  induction hp generalizing x with
  | done h => rfl
  | ask hq h ih =>
    rw [Dialogue.run_ask, serving_of_isStorage storage policy rest hq]
    exact ih _ _

theorem asked_serving (hp : p.Within (fun q => q.isStorage = true) V) (x : σ) (y : β) :
    p.asked (serving storage policy rest) (x, y) = p.asked storage.alone x := by
  induction hp generalizing x with
  | done h => rfl
  | ask hq h ih =>
    rw [Dialogue.asked_ask, serving_of_isStorage storage policy rest hq]
    exact congrArg _ (ih _ _)

end Serving

variable (yes : Backend.Request → β → Bool × β)

/-- A procedure that asks about volumes alone leaves the backend as it is. -/
theorem run_granting (hp : p.Within (fun q => q.isStorage = true) V) (x : σ) (y : β) :
    p.run (granting storage policy yes) (x, y) =
      ((p.run storage.alone x).1, (p.run storage.alone x).2, y) := by
  rw [granting_eq]
  exact run_serving storage policy _ hp x y

theorem asked_granting (hp : p.Within (fun q => q.isStorage = true) V) (x : σ) (y : β) :
    p.asked (granting storage policy yes) (x, y) = p.asked storage.alone x := by
  rw [granting_eq]
  exact asked_serving storage policy _ hp x y

end Device

/-- A check asks about volumes alone. -/
theorem SpaceGuard.within_check (g : SpaceGuard) :
    Dialogue.Within (fun q => q.isStorage = true) (fun _ => True) g.check := by
  unfold SpaceGuard.check
  rw [Dialogue.question_bind]
  refine .ask rfl fun threshold => ?_
  rcases threshold with f | threshold
  · exact .done trivial
  · simp only [Dialogue.question_bind]
    split
    · exact .done trivial
    · refine .ask rfl fun usable => ?_
      rcases usable with f | usable
      · exact .done trivial
      · exact .done trivial

/-- What a check for space can come to. -/
inductive SpaceVerdict : Except Fault (Option Generation) → Prop
  | fault (f : Fault) : SpaceVerdict (.error f)
  | low (usable threshold : UInt64) : SpaceVerdict (.ok (some (.lowSpace usable threshold)))
  | enough : SpaceVerdict (.ok none)

theorem Generator.within_checkSpace (g : Generator) :
    Dialogue.Within (fun q => q.isStorage = true) SpaceVerdict g.checkSpace := by
  refine g.guard.within_check.bind fun check _ => ?_
  rcases check with f | ⟨usable, threshold⟩ | ⟨usable, threshold⟩
  · exact .done (.fault f)
  · exact .done .enough
  · exact .done (.low usable threshold)

end OtaCompile
