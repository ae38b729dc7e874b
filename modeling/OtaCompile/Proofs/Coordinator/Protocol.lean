import OtaCompile.Proofs.Coordinator.Step

/-!
# The protocol of calls

Which calls are out of turn is a matter of the lifecycle alone (`Call.misuse?`).  Such a call comes
to its fault before anything is asked or told, with whatever coordinator, and leaves the session as
it was (`make_of_misuse`).  `Made` says in eight rules what a call of any kind does with a session
that has no empty queue (`leads_make`), as no session has one that calls lead to; from the rules, no
call in turn comes to a fault of the session (`Made.misuse_of_fault`), and what every rule keeps is
kept by any number of calls (`kept_afterAll`).  Behind `cleanup` there is nothing left of the calls
before it: what is made of later calls is determined by what the device answers to them
(`protocol_law`).
-/

namespace OtaCompile

open Procedure

/-- A session that is prepared has no empty queue. -/
def Session.Settled : Session → Prop
  | idle => True
  | prepared w => w.current ≠ some []

namespace Coordinator

/-! ## Calls out of turn -/

/-- The operation of a call that needs a session. -/
def Call.needing? : Call → Option String
  | isDone => some "is_done()"
  | progress => some "progress()"
  | take .next => some "next_dexopt_command()"
  | take .nextPackage => some "dexopt_next_package()"
  | _ => none

/-- The fault of a call that may overlap no session. -/
def Call.overlapping? : Call → Option SessionFault
  | prepare => some .alreadyPrepared
  | relocate => some .relocationDuringSession
  | _ => none

/-- The fault of a call that is out of turn. -/
def Call.misuse? (k : Call) : Lifecycle → Option SessionFault
  | .uninitialized => k.needing?.map .notPrepared
  | .active | .exhausted => k.overlapping?

variable {c : Coordinator} {k : Call} {f : SessionFault} {w : Work}

@[simp] theorem misuse_idle (k : Call) :
    k.misuse? Session.idle.lifecycle = k.needing?.map .notPrepared := rfl

@[simp] theorem misuse_prepared (k : Call) (w : Work) :
    k.misuse? (Session.prepared w).lifecycle = k.overlapping? := by
  rw [Session.lifecycle]
  split <;> rfl

/-- A call out of turn asks nothing, of whatever coordinator, and changes nothing. -/
theorem make_of_misuse {s : Session} (h : k.misuse? s.lifecycle = some f) :
    ∃ a : Answer, a.fault? = some f ∧ ∀ c : Coordinator, c.make s k = pure (a, s) := by
  cases s with
  | idle =>
    rw [misuse_idle] at h
    cases k with
    | isDone => cases h; exact ⟨_, rfl, fun c => rfl⟩
    | progress => cases h; exact ⟨_, rfl, fun c => rfl⟩
    | take t =>
      cases t with
      | next => cases h; exact ⟨_, rfl, fun c => rfl⟩
      | nextPackage => cases h; exact ⟨_, rfl, fun c => rfl⟩
    | prepare => cases h
    | cleanup => cases h
    | status => cases h
    | relocate => cases h
  | prepared w =>
    rw [misuse_prepared] at h
    cases k with
    | prepare => cases h; exact ⟨_, rfl, fun c => rfl⟩
    | relocate => cases h; exact ⟨_, rfl, fun c => rfl⟩
    | isDone => cases h
    | progress => cases h
    | cleanup => cases h
    | status => cases h
    | take t => cases t <;> cases h

/-! ## Calls of any kind -/

/-- What a call does with a session, by the lifecycle and the kind of call. -/
inductive Made (c : Coordinator) : Session → Entry → Session → Prop
  | misused {s : Session} {k : Call} {f : SessionFault} {a : Answer}
    (h : k.misuse? s.lifecycle = some f) (ha : a.fault? = some f) : Made c s ⟨k, [], a⟩ s
  | prepared : Made c .idle ⟨.prepare,
      [⟨.report (SessionEvent.prepared c.registry.forDexopt.length), ()⟩], .prepared (.ok ())⟩
      (Session.begun c.registry.forDexopt)
  | cleanedUp (s : Session) :
    Made c s ⟨.cleanup, [⟨.report SessionEvent.cleanedUp, ()⟩], .cleanedUp⟩ .new
  | isDone (w : Work) : Made c (.prepared w) ⟨.isDone, [], .isDone (.ok w.isDone)⟩ (.prepared w)
  | progress (w : Work) :
    Made c (.prepared w) ⟨.progress, [], .progress (.ok w.progress)⟩ (.prepared w)
  | status (s : Session) : Made c s ⟨.status, [], .status s.status⟩ s
  | relocated {ts : List Device.Exchange} {r : RelocationReport}
    (h : (c.relocator.relocate c.registry.all).Leads ts r) :
    Made c .idle ⟨.relocate, ts, .relocated (.ok r)⟩ .idle
  | taken {w w' : Work} {t : Take} {ts : List Device.Exchange} {a : Answer} {vs : List (Visit c)}
    (h : Step c w ⟨.take t, ts, a⟩ vs w') : Made c (.prepared w) ⟨.take t, ts, a⟩ (.prepared w')

variable {ts : List Device.Exchange} {a : Answer} {s s' : Session} {e : Entry}

/-- A call does what the rules say, in a session that has no empty queue. -/
theorem leads_make (hs : s.Settled) (h : (c.make s k).Leads ts (a, s')) :
    Made c s ⟨k, ts, a⟩ s' := by
  -- with calls out of turn set aside, each lifecycle has its own calls left
  cases hk : k.misuse? s.lifecycle with
  | some f =>
    obtain ⟨a', ha', hmake⟩ := make_of_misuse hk
    rw [hmake] at h
    obtain ⟨rfl, hr⟩ := Dialogue.leads_pure.mp h
    cases hr
    exact .misused hk ha'
  | none =>
    cases s with
    | idle =>
      rw [misuse_idle] at hk
      cases k with
      | prepare =>
        obtain ⟨r, hr, hprepare⟩ := Dialogue.leads_map.mp h
        obtain ⟨rfl, rfl⟩ := leads_emit_pure hprepare
        cases hr
        exact .prepared
      | cleanup =>
        obtain ⟨r, hr, hcleanup⟩ := Dialogue.leads_map.mp h
        obtain ⟨rfl, rfl⟩ := leads_emit_pure hcleanup
        cases hr
        exact .cleanedUp _
      | status =>
        obtain ⟨rfl, hr⟩ := Dialogue.leads_pure.mp h
        cases hr
        exact .status _
      | relocate =>
        obtain ⟨r, hr, hrelocate⟩ := Dialogue.leads_map.mp h
        obtain ⟨report, rfl, hreport⟩ := Dialogue.leads_map.mp hrelocate
        cases hr
        exact .relocated hreport
      | isDone => cases hk
      | progress => cases hk
      | take t => cases t <;> cases hk
    | prepared w =>
      rw [misuse_prepared] at hk
      cases k with
      | cleanup =>
        obtain ⟨r, hr, hcleanup⟩ := Dialogue.leads_map.mp h
        obtain ⟨rfl, rfl⟩ := leads_emit_pure hcleanup
        cases hr
        exact .cleanedUp _
      | isDone =>
        obtain ⟨rfl, hr⟩ := Dialogue.leads_pure.mp h
        cases hr
        exact .isDone w
      | progress =>
        obtain ⟨rfl, hr⟩ := Dialogue.leads_pure.mp h
        cases hr
        exact .progress w
      | status =>
        obtain ⟨rfl, hr⟩ := Dialogue.leads_pure.mp h
        cases hr
        exact .status _
      | take t =>
        obtain ⟨vs, w', rfl, hstep⟩ := leads_take hs h
        exact .taken hstep
      | prepare => cases hk
      | relocate => cases hk

theorem Made.settled (h : Made c s e s') (hs : s.Settled) : s'.Settled := by
  cases h with
  | misused h ha => exact hs
  | prepared => exact nofun
  | cleanedUp s => trivial
  | isDone w => exact hs
  | progress w => exact hs
  | status s => exact hs
  | relocated h => trivial
  | taken h => exact h.current_ne hs

theorem Entry.commands_of_fault {f : Fault} (h : e.answer.fault? = some f) : e.commands = [] := by
  obtain ⟨k, ts, a⟩ := e
  rw [Entry.commands]
  split
  · next command ha =>
    rw [ha] at h
    cases h
  · rfl

/-- In a prepared session a call that does not end it takes a step, or does nothing at all. -/
theorem Made.step_or_nothing (h : Made c (.prepared w) e s') (he : e.call ≠ .cleanup) :
    (∃ t vs w', e.call = .take t ∧ s' = .prepared w' ∧ Step c w e vs w') ∨
      (e.exchanges = [] ∧ e.commands = [] ∧ s' = .prepared w) := by
  cases h with
  | @misused s k f a h ha => exact .inr ⟨rfl, Entry.commands_of_fault (e := ⟨k, [], a⟩) ha, rfl⟩
  | cleanedUp s => exact absurd rfl he
  | isDone w => exact .inr ⟨rfl, rfl, rfl⟩
  | progress w => exact .inr ⟨rfl, rfl, rfl⟩
  | status s => exact .inr ⟨rfl, rfl, rfl⟩
  | @taken w w' t ts a vs h => exact .inl ⟨t, vs, w', rfl, rfl, h⟩

/-- The faults of the session are those of calls out of turn. -/
theorem Made.misuse_of_fault (h : Made c s e s') {f : SessionFault}
    (hf : e.answer.fault? = some f) : e.call.misuse? s.lifecycle = some f := by
  cases h with
  | misused h ha =>
    rw [ha] at hf
    cases hf
    exact h
  | prepared => cases hf
  | cleanedUp s => cases hf
  | isDone w => cases hf
  | progress w => cases hf
  | status s => cases hf
  | relocated h => cases hf
  | taken h =>
    obtain ⟨v, -, hv⟩ := (h.fault_iff f).mp hf
    exact absurd rfl (v.fault_ne_session hv f)

variable {σ : Type} (answer : (q : Device.Request) → σ → Device.Reply q × σ)

theorem made (k : Call) (hs : s.Settled) (x : σ) :
    Made c s ⟨k, (c.make s k).transcript answer x, ((c.make s k).run answer x).1.1⟩
      ((c.make s k).run answer x).1.2 :=
  leads_make hs (Dialogue.leads_run answer (c.make s k) x)

/-- What every call keeps of a session, many calls keep. -/
theorem kept_afterAll {kept : Session → Prop}
    (hkept : ∀ {s e s'}, Made c s e s' → kept s → kept s') (ks : List Call) (hsettled : s.Settled)
    (hs : kept s) (x : σ) : kept (afterAll answer c ks s x).1 := by
  induction ks generalizing s x with
  | nil => exact hs
  | cons k ks ih =>
    have hmade := made (c := c) answer k hsettled x
    exact ih (hmade.settled hsettled) (hkept hmade hs) _

theorem settled_afterAll (ks : List Call) (hs : s.Settled) (x : σ) :
    (afterAll answer c ks s x).1.Settled :=
  kept_afterAll answer Made.settled ks hs hs x

/-- What calls made one after the other do is what the rules say. -/
theorem exists_made (ks : List Call) (hs : s.Settled) (x : σ) :
    ∀ e ∈ history answer c ks s x, ∃ s₁ s₂, Made c s₁ e s₂ := by
  induction ks generalizing s x with
  | nil => exact List.forall_mem_nil _
  | cons k ks ih =>
    have hmade := made (c := c) answer k hs x
    intro e he
    rcases List.mem_cons.mp he with rfl | he
    · exact ⟨_, _, hmade⟩
    · exact ih (hmade.settled hs) _ e he

/-! ## Behind `cleanup` -/

theorem length_history (ks : List Call) (s : Session) (x : σ) :
    (history answer c ks s x).length = ks.length := by
  induction ks generalizing s x with
  | nil => rfl
  | cons k ks ih => exact congrArg (· + 1) (ih _ _)

/-- Devices that answer the same are not told apart by any calls. -/
theorem history_of_sameAnswers {τ : Type} {answer : (q : Device.Request) → σ → Device.Reply q × σ}
    {answer' : (q : Device.Request) → τ → Device.Reply q × τ} {rel : σ → τ → Prop}
    (h : Dialogue.SameAnswers answer answer' rel) (ks : List Call) (s : Session) {x : σ} {y : τ}
    (hxy : rel x y) : history answer c ks s x = history answer' c ks s y := by
  induction ks generalizing s x y with
  | nil => rfl
  | cons k ks ih =>
    obtain ⟨hvalue, hrel, htranscript⟩ := h.run (c.make s k) hxy
    rw [history, history, htranscript, hvalue, ih _ hrel]

/-- The calls behind `cleanup` are made of a new session. -/
theorem history_cleanup (before later : List Call) (x : σ) :
    let y := (afterAll answer c (before ++ [.cleanup]) .new x).2
    history answer c (before ++ .cleanup :: later) .new x = history answer c before .new x ++
      ⟨.cleanup, [⟨.report SessionEvent.cleanedUp, ()⟩], .cleanedUp⟩ ::
        history answer c later .new y := by
  intro y
  have hy : y = (answer (.report SessionEvent.cleanedUp) (afterAll answer c before .new x).2).2 :=
    congrArg Prod.snd (afterAll_append answer c before [.cleanup] .new x)
  rw [history_append, history, hy]
  rfl

/-- **The protocol of calls.**  In every session `s` that calls lead to, whatever the device
answered: a call that is out of turn comes to the fault of the table, whatever the coordinator, asks
and tells nothing and leaves the session as it was, and `prepare` does not even look for packages;
no other call comes to a fault of the session.  Behind `cleanup` the session is a new one, later
calls are made of a new session, and whatever calls were made before it, on whatever device, they
come to the same as long as the devices answer them the same. -/
theorem protocol_law (c : Coordinator) (before : List Call) (x : σ) :
    let s := (afterAll answer c before .new x).1
    let y := (afterAll answer c (before ++ [.cleanup]) .new x).2
    (∀ (k : Call) (f : SessionFault), k.misuse? s.lifecycle = some f →
      ∃ a : Answer, a.fault? = some f ∧ ∀ c : Coordinator, c.make s k = pure (a, s)) ∧
    (s.lifecycle ≠ .uninitialized → ∀ {m : Type → Type} [Monad m] (snapshot : m (List Package)),
      s.prepare snapshot = pure (.error SessionFault.alreadyPrepared, s)) ∧
    (∀ {τ : Type} (answer : (q : Device.Request) → τ → Device.Reply q × τ) (z : τ) (k : Call)
      (f : SessionFault), ((c.make s k).run answer z).1.1.fault? = some f →
        k.misuse? s.lifecycle = some f) ∧
    (afterAll answer c (before ++ [.cleanup]) .new x).1 = .new ∧
    (∀ later, history answer c (before ++ .cleanup :: later) .new x =
      history answer c before .new x ++
        ⟨.cleanup, [⟨.report SessionEvent.cleanedUp, ()⟩], .cleanedUp⟩ ::
          history answer c later .new y) ∧
    ∀ {τ : Type} (answer' : (q : Device.Request) → τ → Device.Reply q × τ) (before' : List Call)
      (x' : τ) (rel : σ → τ → Prop), Dialogue.SameAnswers answer answer' rel →
      rel y (afterAll answer' c (before' ++ [.cleanup]) .new x').2 → ∀ later,
        (history answer c (before ++ .cleanup :: later) .new x).drop (before.length + 1) =
          (history answer' c (before' ++ .cleanup :: later) .new x').drop
            (before'.length + 1) := by
  intro s y
  have hnew : Session.new.Settled := trivial
  have hs : s.Settled := settled_afterAll answer before hnew x
  refine ⟨fun k f h => make_of_misuse h, ?_, ?_, ?_, ?_, ?_⟩
  · intro hprepared m _ snapshot
    cases hs' : s with
    | idle => exact absurd (congrArg Session.lifecycle hs') hprepared
    | prepared w => rfl
  · intro τ answer z k f hf
    exact (made answer k hs z).misuse_of_fault hf
  · rw [afterAll_append]
    rfl
  · exact fun later => history_cleanup answer before later x
  · intro τ answer' before' x' rel hsame hrel later
    -- both runs go on from a new session, each on its own device
    have hdrop : ∀ {σ : Type} (answer : (q : Device.Request) → σ → Device.Reply q × σ)
        (before : List Call) (x : σ),
        (history answer c (before ++ .cleanup :: later) .new x).drop (before.length + 1) =
          history answer c later .new (afterAll answer c (before ++ [.cleanup]) .new x).2 := by
      intro σ answer before x
      rw [history_cleanup, ← length_history answer before .new x, List.drop_length_add_append]
      rfl
    rw [hdrop, hdrop]
    exact history_of_sameAnswers hsame later .new hrel

end Coordinator

end OtaCompile
