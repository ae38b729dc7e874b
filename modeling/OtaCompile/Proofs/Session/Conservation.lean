import OtaCompile.Proofs.Session.History

/-!
# Nothing is lost between calls

Whatever the calls and the answers, the packages taken and those pending are the snapshot, and the
commands handed out and those queued are the commands generated.  Each is kept by one step
(`Step.packages_append`, `Step.queue_append`) and hence by a history.  A queue is never left behind
empty, so the session has no fault of its own to report (`Step.fault_answered`).
-/

namespace OtaCompile.Session

variable {w w' : Work}

/-! ### One step -/

theorem Next.packages_append {gs : List Generated} {r : Except Fault NextCommand}
    (h : Next w gs r w') : gs.map (·.1.package) ++ w'.pending = w.pending := by
  induction h with
  | serve pending c queue total => rfl
  | finish total => rfl
  | fail p pending f total => rfl
  | pass p h ih =>
    rw [List.map_cons, List.cons_append, ih]

/-- The commands queued or generated are handed out in order, the others are queued. -/
theorem Next.queue_append {gs : List Generated} {r : Except Fault NextCommand}
    (h : Next w gs r w') :
    w.queue ++ (⟨gs, .served r⟩ : Entry).yield =
      (⟨gs, .served r⟩ : Entry).commands ++ w'.queue := by
  induction h with
  | serve pending c queue total => simp [Entry.yield, Entry.commands]
  | finish total => rfl
  | fail p pending f total => rfl
  | pass p h ih =>
    rw [Work.queue_queueOf] at ih
    rw [Work.queue_none, List.nil_append]
    exact ih

/-- A fault of `next` is the answer for the last package it took. -/
theorem Next.fault_answered {gs : List Generated} {r : Except Fault NextCommand} {f : Fault}
    (h : Next w gs r w') (hr : r = .error f) : ∃ q, gs.getLast? = some ⟨q, .error f⟩ := by
  induction h with
  | serve pending c queue total => cases hr
  | finish total => cases hr
  | fail p pending f' total =>
    cases hr
    exact ⟨⟨p, pending.length⟩, rfl⟩
  | pass p h ih =>
    obtain ⟨q, hq⟩ := ih hr
    refine ⟨q, ?_⟩
    rw [List.getLast?_cons, hq]
    rfl

/-- A package that is answered with a fault ends the call with it. -/
theorem Next.fault_of_answered {gs : List Generated} {r : Except Fault NextCommand} {g : Generated}
    {f : Fault} (h : Next w gs r w') (hg : g ∈ gs) (hf : g.2 = .error f) : r = .error f := by
  induction h with
  | serve pending c queue total => cases hg
  | finish total => cases hg
  | fail p pending f' total =>
    rw [List.mem_singleton.mp hg] at hf
    cases hf
    rfl
  | pass p h ih =>
    rcases List.mem_cons.mp hg with rfl | hg
    · cases hf
    · exact ih hg

/-- With nothing left, nothing is left. -/
theorem Next.isDone {gs : List Generated} {r : Except Fault NextCommand} (h : Next w gs r w')
    (hw : w.isDone = true) : w'.isDone = true := by
  cases h with
  | serve pending c queue total => simp [Work.isDone] at hw
  | finish total => rfl
  | fail p pending f total => cases hw
  | pass p h => cases hw

theorem Step.packages_append {e : Entry} (h : Step w e w') :
    e.packages ++ w'.pending = w.pending := by
  cases h with
  | next h => simpa [Entry.packages] using h.packages_append
  | pop p pending current total => rfl
  | popNone current total => rfl

theorem Step.queue_append {e : Entry} (h : Step w e w') :
    w.queue ++ e.yield = e.commands ++ w'.queue := by
  cases h with
  | next h => exact h.queue_append
  | pop p pending current total => exact List.append_nil _
  | popNone current total => exact List.append_nil _

theorem Step.fault_answered {e : Entry} {f : Fault} (h : Step w e w') (hf : e.fault? = some f) :
    ∃ q, e.generated.getLast? = some ⟨q, .error f⟩ := by
  cases h with
  | @next _ _ gs r h =>
    cases r with
    | error f' =>
      cases hf
      exact h.fault_answered rfl
    | ok c => cases hf
  | pop p pending current total => cases hf
  | popNone current total => cases hf

/-! ### Many steps -/

theorem Steps.current_ne {es : List Entry} (h : Steps w es w') (hw : w.current ≠ some []) :
    w'.current ≠ some [] := by
  induction h with
  | nil w => exact hw
  | cons h hs ih => exact ih (h.current_ne hw)

theorem Steps.packages_append {es : List Entry} (h : Steps w es w') :
    es.flatMap Entry.packages ++ w'.pending = w.pending := by
  induction h with
  | nil w => rfl
  | cons h hs ih =>
    rw [List.flatMap_cons, List.append_assoc, ih, h.packages_append]

theorem Steps.queue_append {es : List Entry} (h : Steps w es w') :
    w.queue ++ es.flatMap Entry.yield = es.flatMap Entry.commands ++ w'.queue := by
  induction h with
  | nil w => exact List.append_nil _
  | @cons w w' w'' e es h hs ih =>
    calc w.queue ++ (e :: es).flatMap Entry.yield
        = w.queue ++ e.yield ++ es.flatMap Entry.yield := by
          rw [List.flatMap_cons, List.append_assoc]
      _ = e.commands ++ (w'.queue ++ es.flatMap Entry.yield) := by
          rw [h.queue_append, List.append_assoc]
      _ = (e :: es).flatMap Entry.commands ++ w''.queue := by
          rw [ih, List.flatMap_cons, List.append_assoc]

theorem Steps.total_eq {es : List Entry} (h : Steps w es w') : w'.total = w.total := by
  induction h with
  | nil w => rfl
  | cons h hs ih => exact ih.trans h.total_eq

theorem Steps.fault_answered {es : List Entry} (h : Steps w es w') {e : Entry} (he : e ∈ es)
    {f : Fault} (hf : e.fault? = some f) : ∃ q, e.generated.getLast? = some ⟨q, .error f⟩ := by
  induction h with
  | nil w => cases he
  | cons h hs ih =>
    rcases List.mem_cons.mp he with rfl | he
    · exact h.fault_answered hf
    · exact ih he

/-! ### What a session tells of itself -/

/-- With no empty queue, nothing is left as soon as nothing is left to count. -/
theorem isDone_iff (hw : w.current ≠ some []) :
    w.isDone = true ↔ w.pending.length = 0 ∧ w.queue.length = 0 := by
  obtain ⟨pending, current, total⟩ := w
  rcases current with _ | _ | ⟨c, queue⟩
  · simp [Work.isDone]
  · exact absurd rfl hw
  · simp [Work.isDone]

theorem lifecycle_eq_exhausted_iff (w : Work) :
    (prepared w).lifecycle = .exhausted ↔ w.isDone = true := by
  cases h : w.isDone <;> simp [lifecycle, h]

theorem lifecycle_eq_active_iff (w : Work) :
    (prepared w).lifecycle = .active ↔ ¬ w.isDone = true := by
  cases h : w.isDone <;> simp [lifecycle, h]

variable {σ : Type} (answer : (q : Request) → σ → Reply q × σ)

/-- **Conservation.**  After any calls on a snapshot, with any answers: no package and no command
is lost, repeated or moved; the queue is absent or has a command, and every fault returned is one
that the package last taken was answered with; and the counts, `lifecycle` and `isDone` agree. -/
theorem history_conserves (snapshot : List Package) (ts : List Take) (x : σ) :
    let es := history answer ts (begun snapshot) x
    let s := afterAll answer ts (begun snapshot) x
    ∃ w, s = prepared w ∧
      es.flatMap Entry.packages ++ w.pending = snapshot ∧
      es.flatMap Entry.commands ++ w.queue = es.flatMap Entry.yield ∧
      (w.current = none ∨ ∃ c queue, w.current = some (c :: queue)) ∧
      (∀ e ∈ es, ∀ f, e.fault? = some f → ∃ q, e.generated.getLast? = some ⟨q, .error f⟩) ∧
      s.status.total = snapshot.length ∧
      s.status.remaining = w.pending.length ∧
      s.status.pendingCommands = w.queue.length ∧
      (s.lifecycle = .exhausted ↔ s.isDone = .ok true) ∧
      (s.isDone = .ok true ↔ s.status.remaining = 0 ∧ s.status.pendingCommands = 0) := by
  intro es s
  have hnone : (⟨snapshot, none, snapshot.length⟩ : Work).current ≠ some [] := nofun
  obtain ⟨w, hs, hsteps⟩ := history_steps answer ts hnone x
  have hcurrent := hsteps.current_ne hnone
  have hdone := isDone_iff hcurrent
  have hexhausted := lifecycle_eq_exhausted_iff w
  change s = prepared w at hs
  rw [hs]
  refine ⟨w, rfl, hsteps.packages_append, hsteps.queue_append.symm, ?_, ?_, hsteps.total_eq, rfl,
    rfl, ?_, ?_⟩
  · obtain ⟨pending, current, total⟩ := w
    rcases current with _ | _ | ⟨c, queue⟩
    · exact .inl rfl
    · exact absurd rfl hcurrent
    · exact .inr ⟨c, queue, rfl⟩
  · intro e he f hf
    exact hsteps.fault_answered he hf
  · rw [hexhausted, isDone, Except.ok.injEq]
  · rw [isDone, Except.ok.injEq]
    exact hdone

/-- One call of each kind: a package is served, the next one is taken out, the last is pending. -/
theorem history_conserves_between :
    let snapshot : List Package := [{ name := "a" }, { name := "b" }, { name := "c" }]
    let answer : (q : Request) → Unit → Reply q × Unit := fun _ x => (.ok [⟨"a1"⟩, ⟨"a2"⟩], x)
    let es := history answer [.next, .pop "pop"] (begun snapshot) ()
    ∃ w, afterAll answer [.next, .pop "pop"] (begun snapshot) () = prepared w ∧
      es.flatMap Entry.packages = [{ name := "a" }, { name := "b" }] ∧
      es.flatMap Entry.packages ++ w.pending = snapshot ∧
      es.flatMap Entry.commands = [⟨"a1"⟩] ∧ w.queue = [⟨"a2"⟩] ∧
      es.flatMap Entry.commands ++ w.queue = es.flatMap Entry.yield := by
  intro snapshot answer es
  obtain ⟨w, hs, hpackages, hcommands, -⟩ :=
    history_conserves answer snapshot [.next, .pop "pop"] ()
  have hw : w = ⟨[{ name := "c" }], some [⟨"a2"⟩], 3⟩ := (prepared.inj hs).symm
  exact ⟨w, hs, rfl, hpackages, rfl, hw ▸ rfl, hcommands⟩

end OtaCompile.Session
