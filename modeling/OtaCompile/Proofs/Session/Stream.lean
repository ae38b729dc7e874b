import OtaCompile.Proofs.Session.History

/-!
# The stream of commands

Calls of `next` after one another hand out what the packages of the snapshot were answered with,
package after package, and then nothing for ever.  `Next.results_append` says so of one call: what
is queued or generated is the result of the call, if it has one, and what is queued behind it.
Nothing but passed packages stands in front of a package that is taken (`Next.take_nothing`), so
none is generated before all results of those in front of it were handed out.
-/

namespace OtaCompile.Session

/-- One request a package, each with the number of packages behind it. -/
def requests : List Package → List Request
  | [] => []
  | p :: pending => ⟨p, pending.length⟩ :: requests pending

/-- The results that commands are handed out as. -/
def handedOut (commands : List Command) : List (Except Fault NextCommand) :=
  commands.map fun c => .ok (.command c)

/-- The results that an answer gives rise to. -/
def results (g : Generated) : List (Except Fault NextCommand) :=
  match g.2 with
  | .ok commands => handedOut commands
  | .error f => [.error f]

/-- The result of a call, unless there was nothing to do. -/
def something : Except Fault NextCommand → List (Except Fault NextCommand)
  | .ok .nothingToDo => []
  | r => [r]

theorem something_of_ne {r : Except Fault NextCommand} (hr : r ≠ .ok .nothingToDo) :
    something r = [r] := by
  rcases r with f | c | _
  · rfl
  · rfl
  · exact absurd rfl hr

@[simp] theorem handedOut_nil : handedOut [] = [] := rfl

@[simp] theorem handedOut_cons (c : Command) (commands : List Command) :
    handedOut (c :: commands) = .ok (.command c) :: handedOut commands := rfl

variable {w w' : Work} {gs : List Generated} {r : Except Fault NextCommand}

/-! ### One call -/

theorem Next.requests_append (h : Next w gs r w') :
    gs.map Sigma.fst ++ requests w'.pending = requests w.pending := by
  induction h with
  | serve pending c queue total => rfl
  | finish total => rfl
  | fail p pending f total => rfl
  | pass p h ih =>
    rw [List.map_cons, List.cons_append, ih]
    rfl

theorem Next.results_append (h : Next w gs r w') :
    handedOut w.queue ++ gs.flatMap results = something r ++ handedOut w'.queue := by
  induction h with
  | serve pending c queue total => simp [something]
  | finish total => rfl
  | fail p pending f total => rfl
  | @pass p pending commands total gs r w h ih =>
    rw [Work.queue_queueOf] at ih
    rw [Work.queue_none, List.flatMap_cons]
    exact ih

/-- There is nothing to do only if nothing is left. -/
theorem Next.nothing_left (h : Next w gs r w') (hr : r = .ok .nothingToDo) :
    w'.pending = [] ∧ w'.queue = [] := by
  induction h with
  | serve pending c queue total => cases hr
  | finish total => exact ⟨rfl, rfl⟩
  | fail p pending f total => cases hr
  | pass p h ih => exact ih hr

/-- In front of a package that is taken, nothing was queued and the packages taken had nothing. -/
theorem Next.take_nothing (h : Next w gs r w') {i : Nat} (hi : i < gs.length) :
    handedOut w.queue ++ (gs.take i).flatMap results = [] := by
  induction h generalizing i with
  | serve pending c queue total => cases hi
  | finish total => cases hi
  | fail p pending f total =>
    obtain rfl : i = 0 := by
      simpa using hi
    rfl
  | @pass p pending commands total gs r w h ih =>
    cases i with
    | zero => rfl
    | succ i =>
      have := ih (Nat.lt_of_succ_lt_succ hi)
      rw [Work.queue_queueOf] at this
      rw [List.take_succ_cons, List.flatMap_cons]
      exact this

/-! ### Many calls -/

variable {σ : Type} (answer : (q : Request) → σ → Reply q × σ)

/-- One call of `next`, and what is still to be answered behind it. -/
theorem call_next (hw : w.current ≠ some []) (x : σ) :
    ∃ gs r w' x', call answer .next (prepared w) x = (⟨gs, .served r⟩, prepared w', x') ∧
      Next w gs r w' ∧
      Dialogue.replies answer (requests w.pending) x =
        gs ++ Dialogue.replies answer (requests w'.pending) x' := by
  obtain ⟨pending, current, total⟩ := w
  obtain ⟨w', hafter, hnext⟩ := serve_next answer total pending current hw x
  have hgs := Dialogue.transcript_eq_replies answer (serve generate total pending current) x
  have hbehind := Dialogue.run_snd answer (serve generate total pending current) x
  rw [← Dialogue.map_fst_transcript] at hgs hbehind
  refine ⟨_, _, w', ((serve generate total pending current).run answer x).2, ?_, hnext, ?_⟩
  · rw [call_next_eq, hafter]
  · rw [← hnext.requests_append, Dialogue.replies_append, ← hgs, ← hbehind]

/-- What is to be handed out of some work, with the answers for what is pending. -/
def toHandOut (w : Work) (gs : List Generated) : List (Except Fault NextCommand) :=
  handedOut w.queue ++ gs.flatMap results

theorem Next.toHandOut_append (h : Next w gs r w') (gs' : List Generated) :
    toHandOut w (gs ++ gs') = something r ++ toHandOut w' gs' := by
  rw [toHandOut, toHandOut, List.flatMap_append, ← List.append_assoc, h.results_append,
    List.append_assoc]

/-- `k` calls hand out the first `k` results, with nothing to do once there are no more. -/
theorem outcomes_next (k : Nat) (hw : w.current ≠ some []) (x : σ) :
    (history answer (List.replicate k .next) (prepared w) x).map Entry.outcome =
      ((toHandOut w (Dialogue.replies answer (requests w.pending) x)).take k ++
        List.replicate (k - (toHandOut w (Dialogue.replies answer (requests w.pending) x)).length)
          (Except.ok NextCommand.nothingToDo)).map .served := by
  induction k generalizing w x with
  | zero => rw [List.replicate_zero, history, Nat.zero_sub, List.take_zero]; rfl
  | succ k ih =>
    obtain ⟨gs, r, w', x', hcall, hnext, hasked⟩ := call_next answer hw x
    rw [List.replicate_succ, history, hcall, hasked, hnext.toHandOut_append, List.map_cons,
      ih hnext.current_ne x']
    by_cases hr : r = .ok .nothingToDo
    · obtain ⟨hpending, hqueue⟩ := hnext.nothing_left hr
      subst hr
      simp [something, hpending, hqueue, toHandOut, requests, Dialogue.replies,
        List.replicate_succ]
    · rw [something_of_ne hr, List.singleton_append, List.take_succ_cons, List.length_cons,
        Nat.add_sub_add_right]
      rfl

/-- Packages are generated in order, each at most once. -/
theorem generated_next_prefix (k : Nat) (hw : w.current ≠ some []) (x : σ) :
    (history answer (List.replicate k .next) (prepared w) x).flatMap Entry.generated <+:
      Dialogue.replies answer (requests w.pending) x := by
  induction k generalizing w x with
  | zero => exact List.nil_prefix
  | succ k ih =>
    obtain ⟨gs, r, w', x', hcall, hnext, hasked⟩ := call_next answer hw x
    rw [List.replicate_succ, history, hcall, hasked, List.flatMap_cons]
    exact (List.prefix_append_right_inj gs).mpr (ih hnext.current_ne x')

/-- All packages are generated by the call that first finds nothing to do. -/
theorem generated_next_all (k : Nat) (hw : w.current ≠ some []) (x : σ)
    (hk : (toHandOut w (Dialogue.replies answer (requests w.pending) x)).length < k) :
    (history answer (List.replicate k .next) (prepared w) x).flatMap Entry.generated =
      Dialogue.replies answer (requests w.pending) x := by
  induction k generalizing w x with
  | zero => cases hk
  | succ k ih =>
    obtain ⟨gs, r, w', x', hcall, hnext, hasked⟩ := call_next answer hw x
    rw [hasked, hnext.toHandOut_append, List.length_append] at hk
    rw [List.replicate_succ, history, hcall, hasked, List.flatMap_cons]
    refine congrArg (gs ++ ·) ?_
    by_cases hr : r = .ok .nothingToDo
    · have hprefix := generated_next_prefix answer k hnext.current_ne x'
      rw [(hnext.nothing_left hr).1] at hprefix ⊢
      exact List.prefix_nil.mp hprefix
    · refine ih hnext.current_ne x' ?_
      rw [something_of_ne hr, List.length_singleton] at hk
      omega

/-- Before a package is generated, the results of all packages in front of it are handed out. -/
theorem handed_out_before (k : Nat) (hw : w.current ≠ some []) (x : σ) {i : Nat}
    (hi : i < ((history answer (List.replicate (k + 1) .next) (prepared w) x).flatMap
      Entry.generated).length) :
    (toHandOut w ((Dialogue.replies answer (requests w.pending) x).take i)).map .served <+:
      (history answer (List.replicate k .next) (prepared w) x).map Entry.outcome := by
  induction k generalizing w x i with
  | zero =>
    obtain ⟨gs, r, w', x', hcall, hnext, hasked⟩ := call_next answer hw x
    rw [List.replicate_succ, history, hcall, List.flatMap_cons, List.length_append] at hi
    have hgs : i < gs.length := hi
    rw [hasked, List.take_append_of_le_length (Nat.le_of_lt hgs), toHandOut, hnext.take_nothing hgs]
    exact List.nil_prefix
  | succ k ih =>
    obtain ⟨gs, r, w', x', hcall, hnext, hasked⟩ := call_next answer hw x
    rw [List.replicate_succ, history, hcall, List.flatMap_cons, List.length_append] at hi
    rw [hasked]
    by_cases hgs : i < gs.length
    · rw [List.take_append_of_le_length (Nat.le_of_lt hgs), toHandOut, hnext.take_nothing hgs]
      exact List.nil_prefix
    · -- the package is generated by a later call, so this one handed something out
      obtain ⟨j, rfl⟩ := Nat.exists_eq_add_of_le (Nat.not_lt.mp hgs)
      have hj := Nat.lt_of_add_lt_add_left hi
      have hr : r ≠ .ok .nothingToDo := by
        intro hr
        have hprefix := generated_next_prefix answer (k + 1) hnext.current_ne x'
        rw [(hnext.nothing_left hr).1] at hprefix
        have hlength := hprefix.length_le
        exact absurd (Nat.lt_of_lt_of_le hj hlength) (Nat.not_lt_zero j)
      rw [List.take_length_add_append, hnext.toHandOut_append, something_of_ne hr,
        List.replicate_succ, history, hcall, List.singleton_append, List.map_cons, List.map_cons]
      exact List.cons_prefix_cons.mpr ⟨rfl, ih hnext.current_ne x' hj⟩

/-! ### A snapshot -/

/-- **The stream of commands.**  Whatever the packages of a snapshot are answered with (`asked` has
each of them with its answer and the number of packages behind it, in order), `k` calls of `next`
come to the results of these answers in order, up to the `k`-th, and then to nothing to do.  They
generate the packages in order, each once, all of them as soon as there is nothing to do; and when
the next call generates a package, these have handed out all results of the packages in front. -/
theorem next_refines_stream (snapshot : List Package) (x : σ) (k : Nat) :
    let asked := Dialogue.replies answer (requests snapshot) x
    let all := asked.flatMap results
    let es := history answer (List.replicate k .next) (begun snapshot) x
    let more := history answer (List.replicate (k + 1) .next) (begun snapshot) x
    es.map Entry.outcome = (all.take k ++
      List.replicate (k - all.length) (Except.ok NextCommand.nothingToDo)).map .served ∧
    es.flatMap Entry.generated <+: asked ∧
    (all.length < k → es.flatMap Entry.generated = asked) ∧
    ∀ i < (more.flatMap Entry.generated).length,
      ((asked.take i).flatMap results).map .served <+: es.map Entry.outcome := by
  intro asked all es more
  have hnone : (⟨snapshot, none, snapshot.length⟩ : Work).current ≠ some [] := nofun
  refine ⟨outcomes_next answer k hnone x, generated_next_prefix answer k hnone x,
    generated_next_all answer k hnone x, ?_⟩
  intro i hi
  exact handed_out_before answer k hnone x hi

end OtaCompile.Session
