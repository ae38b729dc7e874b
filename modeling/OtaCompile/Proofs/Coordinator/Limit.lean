import Mathlib.Data.List.Basic
import OtaCompile.Proofs.Coordinator.Run
import OtaCompile.Proofs.Coordinator.Sentinel

/-!
# Exports with a limit

Calls for commands yield a list of results and then find nothing to do (`Yields`); there is always
such a list, since every call that finds something leaves less to do (`exists_yields`).  An export
makes calls while all that it had were commands, and fewer than its limit (`Wanted`), so it comes to
what the first results are gathered to (`Yields.runs_collect`).  A package is visited behind the
results of all packages in front of it, hence only if these are wanted too
(`Steps.results_in_front`).  `export_prefix` puts this together.
-/

namespace OtaCompile

open Dialogue (Runs runs_pure runs_bind)
open Session

namespace Coordinator

variable {σ : Type} {answer : (q : Device.Request) → σ → Device.Reply q × σ} {c : Coordinator}

/-! ## What calls yield -/

/-- From a session and a device on, calls for commands come to these results, one after the other,
and then there is nothing to do. -/
inductive Yields (answer : (q : Device.Request) → σ → Device.Reply q × σ) (c : Coordinator) :
    Session → σ → List (Except Fault NextCommand) → Prop
  | nil {s : Session} {x x' : σ} {served : s.Served}
    (hcall : (c.next s).run answer x = (served, x')) (hresult : served.result = .ok .nothingToDo) :
    Yields answer c s x []
  | cons {s : Session} {x x' : σ} {served : s.Served} {rs : List (Except Fault NextCommand)}
    (hcall : (c.next s).run answer x = (served, x'))
    (hresult : served.result ≠ .ok .nothingToDo) (h : Yields answer c served.after x' rs) :
    Yields answer c s x (served.result :: rs)

/-- Calls for commands. -/
def nexts (k : Nat) : List Call := List.replicate k (.take .next)

variable {s : Session} {w : Work} {x x' : σ} {rs : List (Except Fault NextCommand)} {k : Nat}
  {limit : Option Nat}

theorem history_nexts {served : s.Served} (hcall : (c.next s).run answer x = (served, x'))
    (k : Nat) :
    history answer c (nexts (k + 1)) s x =
      ⟨.take .next, (c.next s).transcript answer x, .served served.result⟩ ::
        history answer c (nexts k) served.after x' := by
  rw [nexts, List.replicate_succ, history, make, take, Dialogue.run_map, Dialogue.transcript_map,
    hcall]
  rfl

theorem afterAll_nexts {served : s.Served} (hcall : (c.next s).run answer x = (served, x'))
    (k : Nat) :
    afterAll answer c (nexts (k + 1)) s x = afterAll answer c (nexts k) served.after x' := by
  rw [nexts, List.replicate_succ, afterAll, make, take, Dialogue.run_map, hcall]
  rfl

theorem map_call_history (ks : List Call) (s : Session) (x : σ) :
    (history answer c ks s x).map Entry.call = ks := by
  induction ks generalizing s x with
  | nil => rfl
  | cons k ks ih => exact congrArg (k :: ·) (ih _ _)

theorem run_next (hw : w.current ≠ some []) {served : (prepared w).Served}
    (hcall : (c.next (prepared w)).run answer x = (served, x')) :
    ∃ vs w', served.after = prepared w' ∧ w'.current ≠ some [] ∧
      Step c w ⟨.take .next, (c.next (prepared w)).transcript answer x, .served served.result⟩ vs
        w' := by
  have hleads := Dialogue.leads_run answer (c.next (prepared w)) x
  rw [hcall] at hleads
  obtain ⟨vs, w', hafter, hstep⟩ := leads_next hw hleads
  exact ⟨vs, w', hafter, hstep.current_ne hw, hstep⟩

/-- With nothing left, nothing is yielded. -/
theorem yields_of_isDone (hdone : w.isDone = true) (x : σ) :
    Yields answer c (prepared w) x [] := by
  obtain ⟨pending, current, total⟩ := w
  obtain ⟨hpending, hcurrent⟩ := Bool.and_eq_true_iff.mp hdone
  obtain rfl : pending = [] := List.isEmpty_iff.mp hpending
  obtain rfl : current = none := Option.isNone_iff_eq_none.mp hcurrent
  exact .nil rfl rfl

/-- Calls find nothing to do at last, since a call that finds something leaves less to do. -/
theorem exists_yields (hw : w.current ≠ some []) (x : σ) :
    ∃ rs, Yields answer c (prepared w) x rs := by
  generalize hs : prepared w = s
  induction s using WellFounded.induction smaller_wf generalizing w x with
  | _ s ih =>
    subst hs
    rcases hcall : (c.next (prepared w)).run answer x with ⟨served, x'⟩
    by_cases hresult : served.result = .ok .nothingToDo
    · exact ⟨[], .nil hcall hresult⟩
    · obtain ⟨vs, w', hafter, hw', -⟩ := run_next hw hcall
      have hlast : ¬ served.isLast = true := by
        unfold Served.isLast
        rw [hafter]
        split <;> simp_all
      have hsmaller := served.smaller_of_not_last hlast
      rw [hafter] at hsmaller
      obtain ⟨rs, hrs⟩ := ih _ hsmaller hw' x' rfl
      exact ⟨_, .cons hcall hresult (hafter ▸ hrs)⟩

theorem Yields.ne_nothingToDo (h : Yields answer c s x rs) : ∀ r ∈ rs, r ≠ .ok .nothingToDo := by
  induction h with
  | nil hcall hresult => exact List.forall_mem_nil _
  | cons hcall hresult h ih => exact List.forall_mem_cons.mpr ⟨hresult, ih⟩

/-- A number of calls come to as many results, and to nothing to do once there are no more. -/
theorem Yields.answers (hw : w.current ≠ some []) (h : Yields answer c (prepared w) x rs)
    (k : Nat) :
    (history answer c (nexts k) (prepared w) x).map Entry.answer =
      (rs.take k ++ List.replicate (k - rs.length) (Except.ok NextCommand.nothingToDo)).map
        .served := by
  induction k generalizing w x rs with
  | zero => simp [nexts, history]
  | succ k ih =>
    cases h with
    | nil hcall hresult =>
      obtain ⟨vs, w', hafter, hw', hstep⟩ := run_next hw hcall
      have hdone := hstep.isDone_of_nothing hw (congrArg Answer.served hresult)
      rw [history_nexts hcall, List.map_cons, hafter, ih hw' (yields_of_isDone hdone _), hresult]
      simp [List.replicate_succ]
    | cons hcall hresult h =>
      obtain ⟨vs, w', hafter, hw', -⟩ := run_next hw hcall
      rw [hafter] at h
      rw [history_nexts hcall, List.map_cons, hafter, ih hw' h, List.take_succ_cons,
        List.length_cons, Nat.add_sub_add_right]
      rfl

/-! ## What is gathered -/

/-- The commands of some results; if there is a fault among them, the first. -/
def gathered : List (Except Fault NextCommand) → Except Fault (List Command)
  | .ok (.command command) :: rs => (gathered rs).map (command :: ·)
  | .error f :: _ => .error f
  | _ => .ok []

theorem gathered_handedOut (commands : List Command) (rs : List (Except Fault NextCommand)) :
    gathered (handedOut commands ++ rs) = (gathered rs).map (commands ++ ·) := by
  induction commands with
  | nil =>
    rw [handedOut_nil, List.nil_append]
    cases gathered rs <;> rfl
  | cons command commands ih =>
    rw [handedOut_cons, List.cons_append, gathered, ih]
    cases gathered rs <;> rfl

/-- Results are all commands, or there is a first fault among them. -/
theorem handedOut_or_fault (hrs : ∀ r ∈ rs, r ≠ .ok .nothingToDo) :
    (∃ commands, rs = handedOut commands) ∨
      ∃ commands f after, rs = handedOut commands ++ .error f :: after := by
  induction rs with
  | nil => exact .inl ⟨[], rfl⟩
  | cons r rs ih =>
    obtain ⟨hr, hbehind⟩ := List.forall_mem_cons.mp hrs
    rcases r with f | command | _
    · exact .inr ⟨[], f, rs, rfl⟩
    · rcases ih hbehind with ⟨commands, rfl⟩ | ⟨commands, f, after, rfl⟩
      · exact .inl ⟨command :: commands, rfl⟩
      · exact .inr ⟨command :: commands, f, after, rfl⟩
    · exact absurd rfl hr

theorem error_not_mem_handedOut (f : Fault) (commands : List Command) :
    .error f ∉ handedOut commands := by
  intro hmem
  obtain ⟨command, -, hcommand⟩ := List.mem_map.mp hmem
  cases hcommand

theorem handedOut_prefix_iff {commands commands' : List Command} :
    handedOut commands <+: handedOut commands' ↔ commands <+: commands' := by
  have hinj : Function.Injective fun command =>
      (Except.ok (.command command) : Except Fault NextCommand) :=
    fun _ _ h => NextCommand.command.inj (Except.ok.inj h)
  exact List.prefix_map_iff_of_injective hinj

theorem gathered_eq_ok_iff {commands : List Command} (hrs : ∀ r ∈ rs, r ≠ .ok .nothingToDo) :
    gathered rs = .ok commands ↔ rs = handedOut commands := by
  have hok : ∀ commands, gathered (handedOut commands) = .ok commands := by
    intro commands
    rw [← List.append_nil (handedOut commands), gathered_handedOut]
    exact congrArg Except.ok (List.append_nil commands)
  constructor
  · intro h
    rcases handedOut_or_fault hrs with ⟨commands', rfl⟩ | ⟨commands', f, after, rfl⟩
    · exact congrArg handedOut (Except.ok.inj ((hok commands').symm.trans h))
    · rw [gathered_handedOut] at h
      cases h
  · rintro rfl
    exact hok commands

theorem gathered_eq_error_iff {f : Fault} (hrs : ∀ r ∈ rs, r ≠ .ok .nothingToDo) :
    gathered rs = .error f ↔
      ∃ commands after, rs = handedOut commands ++ .error f :: after := by
  constructor
  · intro h
    rcases handedOut_or_fault hrs with ⟨commands, hcommands⟩ | ⟨commands, g, after, rfl⟩
    · rw [(gathered_eq_ok_iff hrs).mpr hcommands] at h
      cases h
    · rw [gathered_handedOut] at h
      cases h
      exact ⟨commands, after, rfl⟩
  · rintro ⟨commands, after, rfl⟩
    rw [gathered_handedOut]
    rfl

/-! ## The loop of an export -/

/-- A call behind `j` results is made: they are commands, and fewer than the limit. -/
def Wanted (rs : List (Except Fault NextCommand)) (limit : Option Nat) (j : Nat) : Prop :=
  (∃ commands : List Command, commands.length = j ∧ rs.take j = handedOut commands) ∧
    ∀ n ∈ limit, j < n

theorem wanted_zero (hlimit : limit ≠ some 0) : Wanted rs limit 0 := by
  refine ⟨⟨[], rfl, rfl⟩, fun n hn => Nat.pos_of_ne_zero ?_⟩
  rintro rfl
  exact hlimit hn

theorem wanted_first (hlimit : limit ≠ some 0) : ∀ j < 1, Wanted rs limit j := by
  intro j hj
  obtain rfl : j = 0 := Nat.lt_one_iff.mp hj
  exact wanted_zero hlimit

theorem wanted_succ {command : Command} {j : Nat}
    (h : Wanted rs (limit.map (· - 1)) j) :
    Wanted (.ok (.command command) :: rs) limit (j + 1) := by
  obtain ⟨⟨commands, hlength, hcommands⟩, hless⟩ := h
  refine ⟨⟨command :: commands, congrArg (· + 1) hlength, ?_⟩, fun n hn => ?_⟩
  · rw [List.take_succ_cons, hcommands, handedOut_cons]
  · have hlt : j < n - 1 := hless (n - 1) (Option.mem_map_of_mem _ hn)
    omega

/-- What the loop does behind a call. -/
def goOn (c : Coordinator) (limit : Option Nat) (taken : List Command) (served : s.Served) :
    Procedure (Except Fault (List Command) × Session) :=
  match served.result with
  | .ok (.command command) => c.collect (limit.map (· - 1)) (taken ++ [command]) served.after
  | .ok .nothingToDo => return (.ok taken, served.after)
  | .error f => return (.error f, served.after)

theorem collect_eq (c : Coordinator) (hlimit : limit ≠ some 0) (taken : List Command)
    (s : Session) : c.collect limit taken s = c.next s >>= c.goOn limit taken := by
  rw [collect, if_neg hlimit]
  refine congrArg _ (funext fun served => ?_)
  unfold goOn
  split <;> simp_all

theorem take_cons_of_ne_zero (hlimit : limit ≠ some 0) (r : Except Fault NextCommand)
    (rs : List (Except Fault NextCommand)) :
    (r :: rs).take (limit.getD (r :: rs).length) =
      r :: rs.take ((limit.map (· - 1)).getD rs.length) := by
  rcases limit with _ | _ | n
  · rfl
  · exact absurd rfl hlimit
  · rfl

/-- With no command to be had any more, the loop makes no call. -/
theorem runs_collect_zero (rs : List (Except Fault NextCommand)) (taken : List Command) :
    Runs answer (c.collect (some 0) taken s) x []
      ((gathered (rs.take 0)).map (taken ++ ·), s) x := by
  rw [collect, if_pos rfl]
  exact runs_pure.mpr ⟨rfl, congrArg (·, s) (congrArg Except.ok (List.append_nil taken)), rfl⟩

/-- The loop makes the calls that are wanted, and gathers the first results. -/
theorem Yields.runs_collect (h : Yields answer c s x rs) (limit : Option Nat)
    (taken : List Command) :
    ∃ k, (∀ j < k, Wanted rs limit j) ∧
      Runs answer (c.collect limit taken s) x
        ((history answer c (nexts k) s x).flatMap Entry.exchanges)
        ((gathered (rs.take (limit.getD rs.length))).map (taken ++ ·),
          (afterAll answer c (nexts k) s x).1)
        (afterAll answer c (nexts k) s x).2 := by
  -- with every call the limit goes down and the commands taken become more
  induction h generalizing limit taken with
  | @nil s x x' served hcall hresult =>
    by_cases hlimit : limit = some 0
    · subst hlimit
      exact ⟨0, nofun, runs_collect_zero _ taken⟩
    · refine ⟨1, wanted_first hlimit, ?_⟩
      rw [collect_eq c hlimit, history_nexts hcall, afterAll_nexts hcall]
      refine runs_bind.mpr ⟨_, served, x', [], rfl, ⟨rfl, hcall⟩, ?_⟩
      rw [goOn, hresult]
      refine runs_pure.mpr ⟨rfl, ?_, rfl⟩
      simp [gathered, Except.map, nexts, afterAll]
  | @cons s x x' served rs hcall hresult h ih =>
    by_cases hlimit : limit = some 0
    · subst hlimit
      exact ⟨0, nofun, runs_collect_zero _ taken⟩
    · rw [collect_eq c hlimit, take_cons_of_ne_zero hlimit]
      rcases hr : served.result with f | command | _
      · refine ⟨1, wanted_first hlimit, ?_⟩
        rw [history_nexts hcall, afterAll_nexts hcall]
        refine runs_bind.mpr ⟨_, served, x', [], rfl, ⟨rfl, hcall⟩, ?_⟩
        rw [goOn, hr]
        exact runs_pure.mpr ⟨rfl, rfl, rfl⟩
      · obtain ⟨k, hwanted, hruns⟩ := ih (limit.map (· - 1)) (taken ++ [command])
        refine ⟨k + 1, fun j hj => ?_, ?_⟩
        · cases j with
          | zero => exact wanted_zero hlimit
          | succ j => exact wanted_succ (hwanted j (Nat.lt_of_succ_lt_succ hj))
        · rw [history_nexts hcall, afterAll_nexts hcall, List.flatMap_cons]
          refine runs_bind.mpr ⟨_, served, x', _, rfl, ⟨rfl, hcall⟩, ?_⟩
          rw [goOn, hr]
          have hgathered : ∀ r : Except Fault (List Command),
              (r.map (command :: ·)).map (taken ++ ·) = r.map (taken ++ [command] ++ ·) := by
            intro r
            cases r with
            | error f => rfl
            | ok commands => exact congrArg Except.ok (List.append_cons ..)
          rw [gathered, hgathered]
          exact hruns
      · exact absurd hr hresult

/-! ## The packages visited -/

/-- The result a call came to, unless there was nothing to do. -/
def Answer.results : Answer → List (Except Fault NextCommand)
  | served r => something r
  | _ => []

variable {w' : Work} {e : Entry} {vs : List (Visit c)} {es : List (Entry × List (Visit c))}

theorem Step.results_append (h : Step c w e vs w') (he : e.call = .take .next) :
    handedOut w.queue ++ (vs.map Visit.generated).flatMap Session.results =
      e.answer.results ++ handedOut w'.queue := by
  cases h with
  | next h hmode => exact h.results_append
  | compile v current total hremaining hmode => cases he
  | idle current total => cases he

/-- In front of a package that a call takes, nothing was queued and the packages had nothing. -/
theorem Step.nothing_in_front (h : Step c w e vs w') (he : e.call = .take .next)
    {before after : List (Visit c)} {v : Visit c} (hvs : vs = before ++ v :: after) :
    handedOut w.queue ++ (before.map Visit.generated).flatMap Session.results = [] := by
  cases h with
  | next h hmode =>
    have hlength : before.length < (vs.map Visit.generated).length := by simp [hvs]
    have htake : (vs.map Visit.generated).take before.length = before.map Visit.generated := by
      rw [hvs, ← List.map_take, List.take_left]
    have hnothing := h.take_nothing hlength
    rwa [htake] at hnothing
  | compile v current total hremaining hmode => cases he
  | idle current total => cases he

/-- The results of the packages in front of a package are those of the calls in front of one. -/
theorem Steps.results_in_front (h : Steps c w es w') (hcalls : ∀ e ∈ es, e.1.call = .take .next)
    {before after : List (Visit c)} {v : Visit c}
    (hvs : es.flatMap Prod.snd = before ++ v :: after) :
    ∃ j < es.length, handedOut w.queue ++ (before.map Visit.generated).flatMap Session.results =
      (es.take j).flatMap fun e => e.1.answer.results := by
  induction h generalizing before with
  | nil w =>
    exact absurd hvs.symm (List.append_ne_nil_of_right_ne_nil before (List.cons_ne_nil v _))
  | @cons w w₁ w' e vs es h hs ih =>
    obtain ⟨he, hcalls⟩ := List.forall_mem_cons.mp hcalls
    rw [List.flatMap_cons] at hvs
    have hsplit : (∃ before', before = vs ++ before' ∧
        es.flatMap Prod.snd = before' ++ v :: after) ∨ ∃ rest, vs = before ++ v :: rest := by
      rcases List.append_eq_append_iff.mp hvs with hlater | ⟨rest, hvs', hrest⟩
      · exact .inl hlater
      · cases rest with
        | nil => exact .inl ⟨[], by simpa using hvs'.symm, hrest.symm⟩
        | cons u rest =>
          obtain ⟨rfl, -⟩ := List.cons.inj hrest
          exact .inr ⟨rest, hvs'⟩
    rcases hsplit with ⟨before', hbefore, hrest⟩ | ⟨rest, hvs'⟩
    · obtain ⟨j, hj, hresults⟩ := ih hcalls hrest
      refine ⟨j + 1, Nat.succ_lt_succ hj, ?_⟩
      rw [hbefore, List.map_append, List.flatMap_append, ← List.append_assoc, h.results_append he,
        List.append_assoc, hresults, List.take_succ_cons, List.flatMap_cons]
    · exact ⟨0, Nat.zero_lt_succ _, h.nothing_in_front he hvs'⟩

theorem packagePart_entries (h : Steps c w es w') :
    packagePart ((es.map Prod.fst).flatMap Entry.exchanges) =
      (es.flatMap Prod.snd).flatMap Visit.exchanges := by
  induction h with
  | nil w => rfl
  | cons h hs ih =>
    rw [List.map_cons, List.flatMap_cons, packagePart_append, h.packagePart_eq, ih,
      List.flatMap_cons, List.flatMap_append]

/-- What volumes and the policy are asked, and what is told of packages, is all for these visits. -/
structure CausedBy (ts : List Device.Exchange) (vs : List (Visit c)) : Prop where
  storage : storagePart ts = vs.flatMap fun v => storagePart v.exchanges
  policy : policyPart ts = vs.flatMap fun v => policyPart v.exchanges
  events : packageEvents ts = vs.flatMap fun v => packageEvents v.exchanges

/-- What belongs to packages is what is left of events of the session. -/
theorem causedBy_of_packagePart {ts : List Device.Exchange}
    (h : packagePart ts = vs.flatMap Visit.exchanges) : CausedBy ts vs where
  storage := by rw [← storagePart_packagePart, h, storagePart, List.filter_flatMap]; rfl
  policy := by rw [← policyPart_packagePart, h, policyPart, List.filter_flatMap]; rfl
  events := by rw [← packageEvents_packagePart, h, packageEvents, List.filterMap_flatMap]; rfl

theorem map_package_requests (packages : List Package) :
    (requests packages).map Request.package = packages := by
  induction packages with
  | nil => rfl
  | cons p packages ih => exact congrArg (p :: ·) ih

theorem Steps.packages_prefix (h : Steps c w es w') :
    (es.flatMap Prod.snd).map Visit.package <+: w.pending := by
  have hrequests := congrArg (List.map Request.package) h.requests_append
  rw [List.map_append, map_package_requests, map_package_requests, List.map_map] at hrequests
  exact ⟨w'.pending, hrequests⟩

theorem flatMap_something (hrs : ∀ r ∈ rs, r ≠ .ok .nothingToDo) : rs.flatMap something = rs := by
  induction rs with
  | nil => rfl
  | cons r rs ih =>
    obtain ⟨hr, hbehind⟩ := List.forall_mem_cons.mp hrs
    rw [List.flatMap_cons, something_of_ne hr, ih hbehind, List.singleton_append]

/-- The results of the first calls are the first results that are yielded. -/
theorem Yields.results_take (hw : w.current ≠ some []) (h : Yields answer c (prepared w) x rs)
    {j : Nat} (hjk : j ≤ k) (hj : j ≤ rs.length) :
    ((history answer c (nexts k) (prepared w) x).take j).flatMap (fun e => e.answer.results) =
      rs.take j := by
  have hanswers : ((history answer c (nexts k) (prepared w) x).take j).map Entry.answer =
      (rs.take j).map .served := by
    rw [List.map_take, h.answers hw, ← List.map_take]
    have hle : j ≤ (rs.take k).length := by
      rw [List.length_take]
      exact Nat.le_min.mpr ⟨hjk, hj⟩
    rw [List.take_append_of_le_length hle, List.take_take, Nat.min_eq_left hjk]
  have hresults := congrArg (List.flatMap Answer.results) hanswers
  rw [List.flatMap_map, List.flatMap_map] at hresults
  have hfirst : ∀ r ∈ rs.take j, r ≠ .ok .nothingToDo := fun r hr =>
    h.ne_nothingToDo r (List.mem_of_mem_take hr)
  exact hresults.trans (flatMap_something hfirst)

/-- The calls visit the first packages, and each of them behind results that are wanted. -/
theorem Yields.visits (hw : w.current ≠ some []) (hqueue : w.queue = [])
    (h : Yields answer c (prepared w) x rs) (hwanted : ∀ j < k, Wanted rs limit j) :
    ∃ vs : List (Visit c),
      packagePart ((history answer c (nexts k) (prepared w) x).flatMap Entry.exchanges) =
        vs.flatMap Visit.exchanges ∧
      vs.map Visit.package <+: w.pending ∧ (∀ v ∈ vs, v.mode = .export ∧ v.Block) ∧
      ∀ before v after, vs = before ++ v :: after → ∃ j < k,
        (before.map Visit.generated).flatMap Session.results = rs.take j := by
  obtain ⟨es, w', -, hhistory, hsteps⟩ :=
    history_steps (c := c) answer (List.replicate k .next) hw x
  have hnexts : (List.replicate k Take.next).map Call.take = nexts k := List.map_replicate
  rw [hnexts] at hhistory
  have hlength : es.length = k := by
    have hlength := congrArg List.length hhistory
    rwa [List.length_map, length_history, nexts, List.length_replicate] at hlength
  have hcalls : ∀ e ∈ es, e.1.call = .take .next := by
    intro e he
    have hcall : e.1.call ∈ (es.map Prod.fst).map Entry.call :=
      List.mem_map_of_mem (List.mem_map_of_mem he)
    rw [hhistory, map_call_history] at hcall
    exact List.eq_of_mem_replicate hcall
  rw [← hhistory]
  refine ⟨es.flatMap Prod.snd, packagePart_entries hsteps, hsteps.packages_prefix, ?_, ?_⟩
  · intro v hv
    obtain ⟨e, he, hv⟩ := List.mem_flatMap.mp hv
    obtain ⟨u, u', hstep⟩ := hsteps.of_mem he
    obtain ⟨t, ht, hmode⟩ := hstep.mode_eq hv
    rw [hcalls e he] at ht
    cases ht
    exact ⟨hmode, v.block⟩
  · intro before v after hvs
    obtain ⟨j, hj, hresults⟩ := hsteps.results_in_front hcalls hvs
    rw [hlength] at hj
    obtain ⟨⟨commands, hcommands, hfirst⟩, -⟩ := hwanted j hj
    have hle : j ≤ rs.length := by
      have htake := congrArg List.length hfirst
      rw [List.length_take, handedOut, List.length_map, hcommands] at htake
      omega
    refine ⟨j, hj, ?_⟩
    have htake := h.results_take hw (Nat.le_of_lt hj) hle
    rw [← hhistory, ← List.map_take, List.flatMap_map] at htake
    rw [hqueue, handedOut_nil, List.nil_append] at hresults
    exact hresults.trans htake

/-! ## Whole exports -/

/-- An export is the loop between the two events of its session. -/
theorem runs_exportCommands {ts : List Device.Exchange} {r : Except Fault (List Command)}
    (h : Runs answer (c.collect limit [] (afterAll answer c [.prepare] .new x).1)
      (afterAll answer c [.prepare] .new x).2 ts (r, s) x') :
    Runs answer (c.exportCommands limit .new) x
      (⟨.report (SessionEvent.prepared c.registry.forDexopt.length), ()⟩ ::
        (ts ++ [⟨.report SessionEvent.cleanedUp, ()⟩]))
      (r.map fun commands => (commands, c.registry.forDexopt.length), .idle)
      (answer (.report SessionEvent.cleanedUp) x').2 := by
  refine runs_bind.mpr ⟨[_], _, _, _, rfl, ⟨rfl, rfl⟩, ?_⟩
  refine runs_bind.mpr ⟨ts, _, _, _, rfl, h, ?_⟩
  refine runs_bind.mpr ⟨[_], _, _, [], rfl, ⟨rfl, rfl⟩, ?_⟩
  exact runs_pure.mpr ⟨rfl, rfl, rfl⟩

/-- What the program tells of an export: its fault, or the commands and a report of them. -/
theorem run_operate_export {ρ : Type} (host : (q : Host.Request) → ρ → Host.Reply q × ρ)
    (parts : Host.DeviceParts) (tell : Event → Host.Job Unit) (c : Coordinator)
    (limit : Option Nat) (y : ρ) :
    ∃ durationMs,
      (Dialogue.run host (Console.operate parts tell c (.exportCommands limit)) y).1 =
        ((c.exportCommands limit .new).run
          (fun q => Dialogue.run host (Host.deviceAnswer parts tell q))
          (host .clock y).2).1.1.map fun (commands, totalPackages) =>
            .exported commands {
              mode := .export, totalPackages, commands := commands.length, durationMs } :=
  run_timed host parts tell (c.exportCommands limit .new)
    (fun (commands, totalPackages) durationMs =>
      .exported commands {
        mode := .export, totalPackages, commands := commands.length, durationMs }) y

/-- An export comes to what the first results are gathered to, by the calls that are wanted. -/
theorem Yields.exports (h : Yields answer c (afterAll answer c [.prepare] .new x).1
      (afterAll answer c [.prepare] .new x).2 rs) (limit : Option Nat) :
    let packages := c.registry.forDexopt
    let begun := afterAll answer c [.prepare] .new x
    ((c.exportCommands limit .new).run answer x).1 =
      ((gathered (rs.take (limit.getD rs.length))).map (·, packages.length), .idle) ∧
    ∃ k, (∀ j < k, Wanted rs limit j) ∧
      (c.exportCommands limit .new).transcript answer x =
        ⟨.report (SessionEvent.prepared packages.length), ()⟩ ::
          ((history answer c (nexts k) begun.1 begun.2).flatMap Entry.exchanges ++
            [⟨.report SessionEvent.cleanedUp, ()⟩]) := by
  intro packages begun
  obtain ⟨k, hwanted, hcollect⟩ := h.runs_collect limit []
  obtain ⟨htranscript, hrun⟩ := runs_exportCommands hcollect
  have hgathered : ∀ r : Except Fault (List Command), (r.map ([] ++ ·)).map (·, packages.length) =
      r.map (·, packages.length) := by
    intro r
    cases r <;> rfl
  rw [hgathered] at hrun
  exact ⟨congrArg Prod.fst hrun, k, hwanted, htranscript⟩

theorem take_limit_prefix (rs : List (Except Fault NextCommand)) {fewer more : Option Nat}
    (h : ∀ n ∈ more, ∃ m ∈ fewer, m ≤ n) :
    rs.take (fewer.getD rs.length) <+: rs.take (more.getD rs.length) := by
  cases more with
  | none =>
    rw [Option.getD_none, List.take_length]
    exact List.take_prefix _ _
  | some n =>
    obtain ⟨m, rfl, hle⟩ := h n rfl
    exact List.take_prefix_take_left hle

/-- **Exports with a limit.**  The results that repeated calls for commands come to, up to the one
that finds nothing to do, are some list.  Whatever the device answers, an export with a limit comes
to what the first results are, as many as the limit or all: to their commands in order, with the
number of packages prepared, if there is no fault among them, and else to the first fault.  It makes
no call behind a fault or behind as many commands as it may have, and takes no package that is not
needed for these calls: nothing is asked or told of packages but for those taken, which are the
first of the registry, so no question to a volume or to the policy and no event is caused by any
other, and the policy is asked about those alone for which there is space.  Behind it the session is
idle.  So with a higher limit there come the same commands first.  The program tells the same, and
in its report the number of the commands. -/
theorem export_prefix (answer : (q : Device.Request) → σ → Device.Reply q × σ) (c : Coordinator)
    (x : σ) :
    let packages := c.registry.forDexopt
    let begun := afterAll answer c [.prepare] .new x
    let calls := fun k => history answer c (nexts k) begun.1 begun.2
    let exported := fun limit => ((c.exportCommands limit .new).run answer x).1
    (∃ rs : List (Except Fault NextCommand),
      (∀ r ∈ rs, r ≠ .ok .nothingToDo) ∧
      (∀ k, (calls k).map Entry.answer = (rs.take k ++
        List.replicate (k - rs.length) (Except.ok NextCommand.nothingToDo)).map .served) ∧
      ∀ limit : Option Nat,
        let first := rs.take (limit.getD rs.length)
        ((∃ result, (exported limit).1 = .ok result) ↔ ∀ f, .error f ∉ first) ∧
        (∀ commands total, (exported limit).1 = .ok (commands, total) ↔
          first = handedOut commands ∧ total = packages.length) ∧
        (∀ f, (exported limit).1 = .error f ↔
          ∃ commands behind, first = handedOut commands ++ .error f :: behind) ∧
        ∃ k, ∃ vs : List (Visit c),
          (c.exportCommands limit .new).transcript answer x =
            ⟨.report (SessionEvent.prepared packages.length), ()⟩ ::
              ((calls k).flatMap Entry.exchanges ++ [⟨.report SessionEvent.cleanedUp, ()⟩]) ∧
          (∀ j < k, Wanted rs limit j) ∧
          packagePart ((calls k).flatMap Entry.exchanges) = vs.flatMap Visit.exchanges ∧
          CausedBy ((c.exportCommands limit .new).transcript answer x) vs ∧
          vs.map Visit.package <+: packages ∧ (∀ v ∈ vs, v.mode = .export ∧ v.Block) ∧
          ∀ before v after, vs = before ++ v :: after → ∃ j < k,
            (before.map Visit.generated).flatMap Session.results = rs.take j) ∧
    (∀ limit, (exported limit).2 = .idle) ∧
    (∀ (fewer more : Option Nat) (commands commands' : List Command) (total total' : Nat),
      (∀ n ∈ more, ∃ m ∈ fewer, m ≤ n) → (exported fewer).1 = .ok (commands, total) →
        (exported more).1 = .ok (commands', total') → commands <+: commands') ∧
    ∀ {ρ : Type} (host : (q : Host.Request) → ρ → Host.Reply q × ρ) (parts : Host.DeviceParts)
      (tell : Event → Host.Job Unit) (limit : Option Nat) (y : ρ), ∃ durationMs,
        (Dialogue.run host (Console.operate parts tell c (.exportCommands limit)) y).1 =
          ((c.exportCommands limit .new).run
            (fun q => Dialogue.run host (Host.deviceAnswer parts tell q))
            (host .clock y).2).1.1.map fun (commands, totalPackages) =>
              .exported commands {
                mode := .export, totalPackages, commands := commands.length, durationMs } := by
  intro packages begun calls exported
  have hnone : (⟨packages, none, packages.length⟩ : Work).current ≠ some [] := nofun
  have hexists : ∃ rs, Yields answer c begun.1 begun.2 rs := exists_yields hnone begun.2
  obtain ⟨rs, hyields⟩ := hexists
  have hfirst : ∀ limit : Option Nat, ∀ r ∈ rs.take (limit.getD rs.length),
      r ≠ .ok .nothingToDo :=
    fun limit r hr => hyields.ne_nothingToDo r (List.mem_of_mem_take hr)
  have hresult : ∀ limit, exported limit =
      ((gathered (rs.take (limit.getD rs.length))).map (·, packages.length), .idle) :=
    fun limit => (hyields.exports limit).1
  have hok : ∀ limit commands total, (exported limit).1 = .ok (commands, total) ↔
      rs.take (limit.getD rs.length) = handedOut commands ∧ total = packages.length := by
    intro limit commands total
    rw [hresult, ← gathered_eq_ok_iff (hfirst limit)]
    cases gathered (rs.take (limit.getD rs.length)) with
    | error f => exact iff_of_false nofun nofun
    | ok commands' => simp [Except.map, eq_comm]
  have herror : ∀ limit f, (exported limit).1 = .error f ↔
      ∃ commands behind, rs.take (limit.getD rs.length) =
        handedOut commands ++ .error f :: behind := by
    intro limit f
    rw [hresult, ← gathered_eq_error_iff (hfirst limit)]
    cases gathered (rs.take (limit.getD rs.length)) <;> simp [Except.map]
  refine ⟨⟨rs, hyields.ne_nothingToDo, hyields.answers hnone, fun limit => ?_⟩, ?_, ?_,
    fun host parts tell limit y => run_operate_export host parts tell c limit y⟩
  · obtain ⟨-, k, hwanted, htranscript⟩ := hyields.exports limit
    obtain ⟨vs, hpart, hpackages, hblocks, hfront⟩ := hyields.visits hnone rfl hwanted
    have hcaused : CausedBy ((c.exportCommands limit .new).transcript answer x) vs := by
      refine causedBy_of_packagePart ?_
      rw [htranscript, packagePart_between]
      exact hpart
    refine ⟨?_, hok limit, herror limit, k, vs, htranscript, hwanted, hpart, hcaused, hpackages,
      hblocks, hfront⟩
    rcases handedOut_or_fault (hfirst limit) with ⟨commands, hall⟩ | ⟨commands, f, behind, hfault⟩
    · refine iff_of_true ⟨_, (hok limit commands _).mpr ⟨hall, rfl⟩⟩ fun f hf => ?_
      rw [hall] at hf
      exact error_not_mem_handedOut f commands hf
    · refine iff_of_false ?_ fun hnot => hnot f ?_
      · rintro ⟨result, hr⟩
        rw [(herror limit f).mpr ⟨commands, behind, hfault⟩] at hr
        cases hr
      · rw [hfault]
        exact List.mem_append_right _ List.mem_cons_self
  · intro limit
    rw [hresult]
  · intro fewer more commands commands' total total' hle hfewer hmore
    have hprefix := take_limit_prefix rs hle
    rw [((hok fewer _ _).mp hfewer).1, ((hok more _ _).mp hmore).1] at hprefix
    exact handedOut_prefix_iff.mp hprefix

end Coordinator

end OtaCompile
