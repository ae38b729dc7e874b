import OtaCompile.Proofs.Coordinator.Visit
import OtaCompile.Proofs.Session.Conservation
import OtaCompile.Proofs.Session.Stream

/-!
# Calls and steps

A call of a coordinator asks and tells some exchanges and comes to an answer; `history` lists what
calls made one after the other do.  `Step` says in three rules what a call that may take packages
does with the work of a session: which packages it visits, that the visits are all it asks and tells
but for the event that nothing is left, and what it comes to.  Such calls are a sequence of steps,
whatever the device answers (`history_steps`), so what one step keeps of packages and commands is
kept from the first call to the last.
-/

namespace OtaCompile

open Procedure Session

/-- Something is left in front, and nothing behind. -/
def Session.Ends (before after : Session) : Prop :=
  before.lifecycle = .active ∧ after.lifecycle = .exhausted
deriving Decidable

namespace Coordinator

/-! ## Calls -/

/-- A call that may take packages. -/
inductive Take
  | next
  | nextPackage
deriving DecidableEq, Repr

/-- The mode in which a call has its packages handled. -/
def Take.mode : Take → Mode
  | next => .export
  | nextPackage => .direct

/-- A call of any kind. -/
inductive Call
  | prepare
  | cleanup
  | isDone
  | progress
  | status
  | relocate
  | take (t : Take)
deriving DecidableEq, Repr

/-- What a call comes to. -/
inductive Answer
  | prepared (r : Except Fault Unit)
  | cleanedUp
  | isDone (r : Except Fault Bool)
  | progress (r : Except Fault Progress)
  | status (s : Status)
  | relocated (r : Except Fault RelocationReport)
  | served (r : Except Fault NextCommand)
  | compiled (r : Except Fault Unit)

/-- The fault a call came to, if it did. -/
def Answer.fault? : Answer → Option Fault
  | prepared (.error f) | isDone (.error f) | progress (.error f) | relocated (.error f)
  | served (.error f) | compiled (.error f) => some f
  | _ => none

def take (c : Coordinator) (s : Session) : Take → Procedure (Answer × Session)
  | .next => (fun served => (.served served.result, served.after)) <$> c.next s
  | .nextPackage => Prod.map .compiled id <$> c.nextPackage s

/-- Make a call. -/
def make (c : Coordinator) (s : Session) : Call → Procedure (Answer × Session)
  | .prepare => Prod.map .prepared id <$> c.prepare s
  | .cleanup => (fun s => (.cleanedUp, s)) <$> cleanup s
  | .isDone => pure (.isDone s.isDone, s)
  | .progress => pure (.progress s.progress, s)
  | .status => pure (.status s.status, s)
  | .relocate => (fun r => (.relocated r, s)) <$> c.relocate s
  | .take t => c.take s t

/-- A call, all that it asked and told, and what it came to. -/
structure Entry where
  call : Call
  exchanges : List Device.Exchange
  answer : Answer

section History

variable {σ : Type} (answer : (q : Device.Request) → σ → Device.Reply q × σ) (c : Coordinator)

/-- The entries of calls made one after the other. -/
def history : List Call → Session → σ → List Entry
  | [], _, _ => []
  | k :: ks, s, x =>
    let run := (c.make s k).run answer x
    ⟨k, (c.make s k).transcript answer x, run.1.1⟩ :: history ks run.1.2 run.2

/-- The session behind calls made one after the other, and the device. -/
def afterAll : List Call → Session → σ → Session × σ
  | [], s, x => (s, x)
  | k :: ks, s, x =>
    let run := (c.make s k).run answer x
    afterAll ks run.1.2 run.2

theorem history_append (ks ks' : List Call) (s : Session) (x : σ) :
    history answer c (ks ++ ks') s x = history answer c ks s x ++
      history answer c ks' (afterAll answer c ks s x).1 (afterAll answer c ks s x).2 := by
  induction ks generalizing s x with
  | nil => rfl
  | cons k ks ih => exact congrArg (_ :: ·) (ih _ _)

theorem afterAll_append (ks ks' : List Call) (s : Session) (x : σ) :
    afterAll answer c (ks ++ ks') s x =
      afterAll answer c ks' (afterAll answer c ks s x).1 (afterAll answer c ks s x).2 := by
  induction ks generalizing s x with
  | nil => rfl
  | cons k ks ih => exact ih _ _

end History

/-! ## Steps -/

variable {c : Coordinator}

namespace Visit

/-- The package as it was taken, and what it was answered with. -/
def generated (v : Visit c) : Generated := ⟨⟨v.package, v.remaining⟩, v.result⟩

end Visit

/-- The event that nothing is left, told by a call that has no fault and leaves nothing. -/
def exhaustion {α : Type} (before after : Session) : Except Fault α → List Device.Exchange
  | .ok _ => if before.Ends after then [⟨.report (SessionEvent.exhausted after.total), ()⟩] else []
  | .error _ => []

theorem exhaustion_ok {α : Type} {before after : Session} (h : before.lifecycle = .active) (a : α) :
    exhaustion before after (.ok a) =
      if after.lifecycle = .exhausted then [⟨.report (SessionEvent.exhausted after.total), ()⟩]
      else [] := by
  simp only [exhaustion, Session.Ends, h, true_and]

/-- One call that may take packages: what it asks and tells, what it comes to, its visits, and the
work before and behind. -/
inductive Step (c : Coordinator) : Work → Entry → List (Visit c) → Work → Prop
  | next {w w' : Work} {vs : List (Visit c)} {r : Except Fault NextCommand}
    (h : Session.Next w (vs.map Visit.generated) r w') (hmode : ∀ v ∈ vs, v.mode = .export) :
    Step c w
      ⟨.take .next, vs.flatMap Visit.exchanges ++ exhaustion (.prepared w) (.prepared w') r,
        .served r⟩ vs w'
  | compile (v : Visit c) {pending : List Package} (current : Option (List Command)) (total : Nat)
    (hremaining : v.remaining = pending.length) (hmode : v.mode = .direct) :
    Step c ⟨v.package :: pending, current, total⟩
      ⟨.take .nextPackage, v.exchanges ++ exhaustion
          (.prepared ⟨v.package :: pending, current, total⟩) (.prepared ⟨pending, current, total⟩)
          v.result,
        .compiled (v.result.map fun _ => ())⟩ [v] ⟨pending, current, total⟩
  | idle (current : Option (List Command)) (total : Nat) :
    Step c ⟨[], current, total⟩ ⟨.take .nextPackage, [], .compiled (.ok ())⟩ []
      ⟨[], current, total⟩

theorem Handled.fault_ne_session {p : Package} {mode : Mode} {k : Finding}
    {outcome : List Device.Exchange} {f : Fault}
    (h : Handled c p mode k outcome (.error f)) (g : SessionFault) : f ≠ .session g := by
  cases h with
  | unchecked mode hcheck =>
    cases k with
    | unknown f => cases hcheck; nofun
    | noThreshold => cases hcheck; nofun
    | measured threshold usable pos => cases hcheck

theorem leads_emitIfExhausted {s : Session} {ts : List Device.Exchange} {a : Unit}
    (h : (emitIfExhausted s).Leads ts a) :
    ts = if s.lifecycle = .exhausted then [⟨.report (SessionEvent.exhausted s.total), ()⟩]
      else [] := by
  unfold emitIfExhausted at h
  split at h
  · next hs =>
    rw [if_pos hs]
    obtain ⟨⟨⟩, ts, rfl, hend⟩ := Dialogue.leads_ask.mp h
    cases hend
    rfl
  · next hs =>
    rw [if_neg hs]
    exact (Dialogue.leads_pure.mp h).1

/-- Serving takes packages by visits, and does what the rules say. -/
theorem leads_serve {total : Nat} {pending : List Package} {current : Option (List Command)}
    {ts : List Device.Exchange} {served : Served (prepared ⟨pending, current, total⟩)}
    (hcurrent : current ≠ some [])
    (h : (serve c.recordPackage total pending current).Leads ts served) :
    ∃ (vs : List (Visit c)) (w' : Work), served.after = prepared w' ∧
      ts = vs.flatMap Visit.exchanges ∧ (∀ v ∈ vs, v.mode = .export) ∧
      Session.Next ⟨pending, current, total⟩ (vs.map Visit.generated) served.result w' := by
  induction pending generalizing current ts with
  | nil =>
    rcases current with _ | _ | ⟨command, queue⟩
    · obtain ⟨rfl, rfl⟩ := Dialogue.leads_pure.mp h
      exact ⟨[], _, rfl, rfl, List.forall_mem_nil _, .finish total⟩
    · exact absurd rfl hcurrent
    · obtain ⟨rfl, rfl⟩ := Dialogue.leads_pure.mp h
      exact ⟨[], _, rfl, rfl, List.forall_mem_nil _, .serve [] command queue total⟩
  | cons p pending ih =>
    rcases current with _ | _ | ⟨command, queue⟩
    · rw [serve_cons_none] at h
      obtain ⟨ts₁, r, ts₂, rfl, hrecord, hanswered⟩ := Dialogue.leads_bind.mp h
      obtain ⟨k, outcome, hv, rfl⟩ := leads_recordPackage hrecord
      cases r with
      | error f =>
        obtain ⟨rfl, rfl⟩ := Dialogue.leads_pure.mp hanswered
        refine ⟨[⟨p, pending.length, .export, k, outcome, .error f, hv⟩], _, rfl, ?_, ?_,
          .fail p pending f total⟩
        · simp
        · simp
      | ok commands =>
        obtain ⟨served', rfl, hserve⟩ := Dialogue.leads_map.mp hanswered
        obtain ⟨vs, w', hafter, rfl, hmode, hnext⟩ :=
          ih (Work.queueOf_ne_empty commands) hserve
        refine ⟨⟨p, pending.length, .export, k, outcome, .ok commands, hv⟩ :: vs, w', hafter, rfl,
          ?_, .pass p hnext⟩
        intro v hmem
        rcases List.mem_cons.mp hmem with rfl | hmem
        · rfl
        · exact hmode v hmem
    · exact absurd rfl hcurrent
    · obtain ⟨rfl, rfl⟩ := Dialogue.leads_pure.mp h
      exact ⟨[], _, rfl, rfl, List.forall_mem_nil _, .serve (p :: pending) command queue total⟩

/-- A fault of a call for a command is that of the check in front of the last package taken. -/
theorem fault_of_visits {w w' : Work} {vs : List (Visit c)} {r : Except Fault NextCommand}
    {f : Fault} (h : Session.Next w (vs.map Visit.generated) r w') (hr : r = .error f) :
    ∃ v ∈ vs, v.result = .error f := by
  obtain ⟨q, hq⟩ := h.fault_answered hr
  obtain ⟨v, hv, hvq⟩ := List.mem_map.mp (List.mem_of_getLast? hq)
  exact ⟨v, hv, eq_of_heq (Sigma.mk.inj hvq).2⟩

theorem Visit.fault_ne_session {v : Visit c} {f : Fault} (h : v.result = .error f)
    (g : SessionFault) : f ≠ .session g :=
  Handled.fault_ne_session (h ▸ v.handled) g

theorem leads_next {w : Work} {ts : List Device.Exchange} {served : Served (prepared w)}
    (hw : w.current ≠ some []) (h : (c.next (prepared w)).Leads ts served) :
    ∃ vs w', served.after = prepared w' ∧
      Step c w ⟨.take .next, ts, .served served.result⟩ vs w' := by
  obtain ⟨ts₁, served', ts₂, rfl, hserve, hend⟩ := Dialogue.leads_bind.mp h
  obtain ⟨vs, w', hafter, rfl, hmode, hnext⟩ := leads_serve hw hserve
  suffices hsuffices : ts₂ = exhaustion (prepared w) (prepared w') served'.result ∧
      served = served' by
    obtain ⟨rfl, rfl⟩ := hsuffices
    exact ⟨vs, w', hafter, .next hnext hmode⟩
  rw [← hafter]
  split at hend
  · next package hresult =>
    -- an empty queue is a fault of the session, and no visit ends in one
    obtain ⟨v, -, hv⟩ := fault_of_visits hnext hresult
    exact absurd rfl (Visit.fault_ne_session hv _)
  · next command hresult =>
    rw [hresult]
    split at hend
    · next hactive =>
      obtain ⟨ts₃, a, ts₄, rfl, htold, hlast⟩ := Dialogue.leads_bind.mp hend
      obtain ⟨rfl, rfl⟩ := Dialogue.leads_pure.mp hlast
      rw [leads_emitIfExhausted htold, List.append_nil, exhaustion_ok hactive]
      exact ⟨rfl, rfl⟩
    · next hactive =>
      obtain ⟨rfl, rfl⟩ := Dialogue.leads_pure.mp hend
      rw [exhaustion, if_neg fun h => hactive h.1]
      exact ⟨rfl, rfl⟩
  · next f hne hresult =>
    obtain ⟨rfl, rfl⟩ := Dialogue.leads_pure.mp hend
    rw [hresult]
    exact ⟨rfl, rfl⟩

/-- What a call does behind the package it has compiled. -/
def onCompiled (s : Session) : Except Fault Unit → Procedure (Except Fault Unit × Session)
  | .error f => return (.error f, s)
  | .ok () => do
    emitIfExhausted s
    return (.ok (), s)

theorem nextPackage_eq (c : Coordinator) (p : Package) (pending : List Package)
    (current : Option (List Command)) (total : Nat) :
    c.nextPackage (prepared ⟨p :: pending, current, total⟩) =
      c.compilePackage p pending.length >>= onCompiled (prepared ⟨pending, current, total⟩) := by
  unfold compilePackage
  rw [bind_assoc]
  refine congrArg (emit (PackageEvent.processing p.name .direct pending.length) >>= ·)
    (funext fun _ => ?_)
  rw [bind_assoc]
  refine congrArg _ (funext fun compiled => ?_)
  cases compiled with
  | error f => rfl
  | ok outcome =>
    rw [bind_assoc]
    rfl

theorem leads_nextPackage {w : Work} {ts : List Device.Exchange} {r : Except Fault Unit}
    {s : Session} (h : (c.nextPackage (prepared w)).Leads ts (r, s)) :
    ∃ vs w', s = prepared w' ∧ Step c w ⟨.take .nextPackage, ts, .compiled r⟩ vs w' := by
  obtain ⟨pending, current, total⟩ := w
  cases pending with
  | nil =>
    obtain ⟨rfl, hend⟩ := Dialogue.leads_pure.mp h
    cases hend
    exact ⟨[], _, rfl, .idle current total⟩
  | cons p pending =>
    rw [nextPackage_eq] at h
    obtain ⟨ts₁, r', ts₂, rfl, hcompile, hend⟩ := Dialogue.leads_bind.mp h
    obtain ⟨k, outcome, result, hv, rfl, rfl⟩ := leads_compilePackage hcompile
    let v : Visit c := ⟨p, pending.length, .direct, k, outcome, result, hv⟩
    cases result with
    | error f =>
      obtain ⟨rfl, hlast⟩ := Dialogue.leads_pure.mp hend
      cases hlast
      exact ⟨[v], _, rfl, .compile v current total rfl rfl⟩
    | ok commands =>
      obtain ⟨ts₃, a, ts₄, rfl, htold, hlast⟩ := Dialogue.leads_bind.mp hend
      obtain ⟨rfl, hlast⟩ := Dialogue.leads_pure.mp hlast
      cases hlast
      have hactive : (prepared ⟨p :: pending, current, total⟩).lifecycle = .active := rfl
      rw [leads_emitIfExhausted htold, List.append_nil, ← exhaustion_ok hactive commands]
      exact ⟨[v], _, rfl, .compile v current total rfl rfl⟩

theorem leads_take {w : Work} {t : Take} {ts : List Device.Exchange} {a : Answer} {s : Session}
    (hw : w.current ≠ some []) (h : (c.take (prepared w) t).Leads ts (a, s)) :
    ∃ vs w', s = prepared w' ∧ Step c w ⟨.take t, ts, a⟩ vs w' := by
  cases t with
  | next =>
    obtain ⟨served, hserved, hnext⟩ := Dialogue.leads_map.mp h
    cases hserved
    exact leads_next hw hnext
  | nextPackage =>
    obtain ⟨⟨r, s'⟩, hcompiled, hnext⟩ := Dialogue.leads_map.mp h
    cases hcompiled
    exact leads_nextPackage hnext

/-! ### What a step keeps -/

/-- The commands a package yields. -/
def Visit.commands (v : Visit c) : List Command :=
  match v.result with
  | .ok commands => commands
  | .error _ => []

/-- The command a call handed out, if it did. -/
def Entry.commands (e : Entry) : List Command :=
  match e.answer with
  | .served (.ok (.command command)) => [command]
  | _ => []

/-- Compiling yields no commands. -/
theorem Visit.commands_of_direct {v : Visit c} (h : v.mode = .direct) : v.commands = [] := by
  obtain ⟨p, n, mode, k, outcome, r, hv⟩ := v
  subst h
  cases hv <;> rfl

variable {w w' : Work} {e : Entry} {vs : List (Visit c)}

theorem Step.current_ne (h : Step c w e vs w') (hw : w.current ≠ some []) :
    w'.current ≠ some [] := by
  cases h with
  | next h hmode => exact h.current_ne
  | compile v current total hremaining hmode => exact hw
  | idle current total => exact hw

theorem Step.total_eq (h : Step c w e vs w') : w'.total = w.total := by
  cases h with
  | next h hmode => exact h.total_eq
  | compile v current total hremaining hmode => rfl
  | idle current total => rfl

/-- Packages are visited in order, each with the number of packages behind it. -/
theorem Step.requests_append (h : Step c w e vs w') :
    (vs.map fun v => v.generated.1) ++ requests w'.pending = requests w.pending := by
  cases h with
  | next h hmode =>
    have := h.requests_append
    rwa [List.map_map] at this
  | @compile v pending current total hremaining hmode =>
    rw [requests, ← hremaining]
    rfl
  | idle current total => rfl

theorem Step.commands_append (h : Step c w e vs w') :
    w.queue ++ vs.flatMap Visit.commands = e.commands ++ w'.queue := by
  cases h with
  | @next w w' vs r h hmode =>
    have hyield : (⟨vs.map Visit.generated, .served r⟩ : Session.Entry).yield =
        vs.flatMap Visit.commands := by
      rw [Session.Entry.yield, List.flatMap_map]
      refine congrArg (vs.flatMap ·) (funext fun v => ?_)
      rw [Visit.generated, Visit.commands]
      cases v.result <;> rfl
    rw [← hyield, h.queue_append]
    rcases r with f | command | _ <;> rfl
  | @compile v pending current total hremaining hmode =>
    rw [List.flatMap_singleton, Visit.commands_of_direct hmode, List.append_nil]
    rfl
  | idle current total => exact List.append_nil _

theorem Step.mode_eq (h : Step c w e vs w') {v : Visit c} (hv : v ∈ vs) :
    ∃ t, e.call = .take t ∧ v.mode = t.mode := by
  cases h with
  | next h hmode => exact ⟨.next, rfl, hmode v hv⟩
  | compile v' current total hremaining hmode =>
    rw [List.mem_singleton.mp hv]
    exact ⟨.nextPackage, rfl, hmode⟩
  | idle current total => cases hv

/-- A call ends in a fault if a check in front of one of its packages does. -/
theorem Step.fault_iff (h : Step c w e vs w') (f : Fault) :
    e.answer.fault? = some f ↔ ∃ v ∈ vs, v.result = .error f := by
  cases h with
  | @next w w' vs r h hmode =>
    constructor
    · intro hf
      refine fault_of_visits h ?_
      cases r with
      | error f' => cases hf; rfl
      | ok command => cases hf
    · rintro ⟨v, hv, hf⟩
      rw [h.fault_of_answered (List.mem_map_of_mem hv) hf]
      rfl
  | compile v current total hremaining hmode =>
    simp only [List.mem_singleton, exists_eq_left]
    cases v.result with
    | error f' => simp [Except.map, Answer.fault?]
    | ok commands => simp [Except.map, Answer.fault?]
  | idle current total => simp [Answer.fault?]

/-! ## Sequences of calls -/

/-- One call after the other, each entry with the visits of its call. -/
inductive Steps (c : Coordinator) : Work → List (Entry × List (Visit c)) → Work → Prop
  | nil (w : Work) : Steps c w [] w
  | cons {w w' w'' : Work} {e : Entry} {vs : List (Visit c)} {es : List (Entry × List (Visit c))}
    (h : Step c w e vs w') (hs : Steps c w' es w'') : Steps c w ((e, vs) :: es) w''

variable {es : List (Entry × List (Visit c))}

theorem Steps.requests_append (h : Steps c w es w') :
    ((es.flatMap Prod.snd).map fun v => v.generated.1) ++ requests w'.pending =
      requests w.pending := by
  induction h with
  | nil w => rfl
  | cons h hs ih =>
    rw [List.flatMap_cons, List.map_append, List.append_assoc, ih, h.requests_append]

theorem Steps.commands_append (h : Steps c w es w') :
    w.queue ++ (es.flatMap Prod.snd).flatMap Visit.commands =
      es.flatMap (fun e => e.1.commands) ++ w'.queue := by
  induction h with
  | nil w => exact List.append_nil _
  | @cons w w' w'' e vs es h hs ih =>
    rw [List.flatMap_cons, List.flatMap_append, ← List.append_assoc, h.commands_append,
      List.append_assoc, ih, List.flatMap_cons, List.append_assoc]

theorem Steps.of_mem (h : Steps c w es w') {ev : Entry × List (Visit c)} (hev : ev ∈ es) :
    ∃ u u', Step c u ev.1 ev.2 u' := by
  induction h with
  | nil w => cases hev
  | cons h hs ih =>
    rcases List.mem_cons.mp hev with rfl | hev
    · exact ⟨_, _, h⟩
    · exact ih hev

variable {σ : Type} (answer : (q : Device.Request) → σ → Device.Reply q × σ)

/-- Calls that may take packages are a sequence of steps, whatever the device answers. -/
theorem history_steps (takes : List Take) (hw : w.current ≠ some []) (x : σ) :
    ∃ es w', (afterAll answer c (takes.map .take) (prepared w) x).1 = prepared w' ∧
      es.map Prod.fst = history answer c (takes.map .take) (prepared w) x ∧ Steps c w es w' := by
  induction takes generalizing w x with
  | nil => exact ⟨[], w, rfl, rfl, .nil w⟩
  | cons t takes ih =>
    obtain ⟨vs, w₁, hafter, hstep⟩ :=
      leads_take hw (Dialogue.leads_run answer (c.take (prepared w) t) x)
    obtain ⟨es, w₂, hlast, hhistory, hsteps⟩ :=
      ih (hstep.current_ne hw) ((c.take (prepared w) t).run answer x).2
    refine ⟨_ :: es, w₂, ?_, ?_, .cons hstep hsteps⟩
    · rw [List.map_cons, afterAll, make, hafter]
      exact hlast
    · rw [List.map_cons, List.map_cons, history, make, hafter, hhistory]

end Coordinator

end OtaCompile
