import OtaCompile.Proofs.Coordinator.Exhaustion
import OtaCompile.Proofs.Coordinator.Export

/-!
# Reading commands up to the sentinel

Commands and the line that ends them are texts of one kind.  They are told apart because every
command of a session is that of an invocation, whatever the policy does: it was taken down by the
recording backend (`Visit.commands_issued`), and no call puts another one in the queue
(`Made.issued`).  With the sentinel handed out nothing is left, and no later call of the session
hands out a command (`commands_of_isDone`).  So whoever takes the texts up to the sentinel has all
commands that are handed out and nothing else (`sentinel_ends_commands`).
-/

namespace OtaCompile

open Session

/-- The command is that of some invocation. -/
def Command.Issued (command : Command) : Prop := ∃ i : Invocation, i.command = command

theorem Invocation.head?_command (i : Invocation) : i.command.text.toList.head? = some 'd' := by
  have hne : i.arguments.map String.toList ≠ [] := by simp [Invocation.arguments]
  rw [Invocation.command, Text.join, String.toList_ofList, List.map_cons, Text.joined_cons hne]
  rfl

/-- A command begins with the leading word, and the sentinel does not. -/
theorem Command.Issued.text_ne {command : Command} (h : command.Issued) :
    command.text ≠ NextCommand.sentinel := by
  obtain ⟨i, rfl⟩ := h
  intro htext
  have hhead := i.head?_command
  rw [htext] at hhead
  revert hhead
  decide

/-- All commands in the queue of a prepared session are issued. -/
def Session.Issued : Session → Prop
  | idle => True
  | prepared w => ∀ command ∈ w.queue, command.Issued

namespace Coordinator

variable {c : Coordinator} {w w' : Work} {e : Entry} {vs : List (Visit c)} {s s' : Session}

/-! ## One call -/

theorem Visit.commands_issued (v : Visit c) : ∀ command ∈ v.commands, command.Issued := by
  obtain ⟨p, n, mode, k, outcome, r, hv⟩ := v
  cases hv with
  | unchecked mode hcheck => exact List.forall_mem_nil _
  | low mode hlow => exact List.forall_mem_nil _
  | @recorded k hspace filter plan r commands hr hplan =>
    have hrecorded : commands = (Backend.executed plan).map Invocation.command := by
      rw [← Backend.recorded_snd, hplan]
    intro command (hcommand : command ∈ commands)
    rw [hrecorded] at hcommand
    obtain ⟨i, -, hi⟩ := List.mem_map.mp hcommand
    exact ⟨i, hi⟩
  | unrecorded hspace filter hplan => exact List.forall_mem_nil _
  | compiled hspace filter hr hplan => exact List.forall_mem_nil _
  | failed hspace filter hplan => exact List.forall_mem_nil _

theorem Step.issued (h : Step c w e vs w') (hw : (Session.prepared w).Issued) :
    (∀ command ∈ e.commands, command.Issued) ∧ (Session.prepared w').Issued := by
  have hall : ∀ command ∈ e.commands ++ w'.queue, command.Issued := by
    rw [← h.commands_append]
    intro command hcommand
    rcases List.mem_append.mp hcommand with hqueue | hvisits
    · exact hw command hqueue
    · obtain ⟨v, -, hv⟩ := List.mem_flatMap.mp hvisits
      exact v.commands_issued command hv
  exact List.forall_mem_append.mp hall

/-- A call hands out issued commands, and leaves issued ones to the calls behind it. -/
theorem Made.issued (h : Made c s e s') (hs : s.Issued) :
    (∀ command ∈ e.commands, command.Issued) ∧ s'.Issued := by
  cases h with
  | @misused s k f a h ha =>
    refine ⟨?_, hs⟩
    rw [Entry.commands_of_fault (e := ⟨k, [], a⟩) ha]
    exact List.forall_mem_nil _
  | prepared => exact ⟨List.forall_mem_nil _, List.forall_mem_nil _⟩
  | cleanedUp s => exact ⟨List.forall_mem_nil _, trivial⟩
  | isDone w => exact ⟨List.forall_mem_nil _, hs⟩
  | progress w => exact ⟨List.forall_mem_nil _, hs⟩
  | status s => exact ⟨List.forall_mem_nil _, hs⟩
  | relocated h => exact ⟨List.forall_mem_nil _, trivial⟩
  | taken h => exact h.issued hs

/-- With nothing left, a step takes no package and hands out no command. -/
theorem Step.commands_of_isDone (h : Step c w e vs w') (hw : w.current ≠ some [])
    (hdone : w.isDone = true) : e.commands = [] := by
  obtain ⟨hpending, hqueue⟩ := (isDone_iff hw).mp hdone
  have hvisits := h.requests_append
  rw [List.length_eq_zero_iff.mp hpending] at hvisits
  have hnone : vs = [] := List.map_eq_nil_iff.mp (List.append_eq_nil_iff.mp hvisits).1
  have hcommands := h.commands_append
  rw [hnone, List.length_eq_zero_iff.mp hqueue] at hcommands
  exact (List.append_eq_nil_iff.mp hcommands.symm).1

theorem Made.commands_of_isDone (h : Made c (.prepared w) e s') (he : e.call ≠ .cleanup)
    (hw : w.current ≠ some []) (hdone : w.isDone = true) : e.commands = [] := by
  rcases h.step_or_nothing he with ⟨t, vs, w', -, -, hstep⟩ | ⟨-, hcommands, -⟩
  · exact hstep.commands_of_isDone hw hdone
  · exact hcommands

/-- With the sentinel handed out nothing is left. -/
theorem Step.isDone_of_nothing (h : Step c w e vs w') (hw : w.current ≠ some [])
    (he : e.answer = .served (.ok .nothingToDo)) : w'.isDone = true := by
  have hcurrent := h.current_ne hw
  cases h with
  | next h hmode =>
    obtain ⟨hpending, hqueue⟩ := h.nothing_left (Answer.served.inj he)
    exact (isDone_iff hcurrent).mpr
      ⟨List.length_eq_zero_iff.mpr hpending, List.length_eq_zero_iff.mpr hqueue⟩
  | compile v current total hremaining hmode => cases he
  | idle current total => cases he

theorem Made.isDone_of_nothing (h : Made c s e s') (hs : s.Settled)
    (he : e.answer = .served (.ok .nothingToDo)) : ∃ w', s' = .prepared w' ∧ w'.isDone = true := by
  cases h with
  | @misused s k f a h ha =>
    obtain rfl : a = .served (.ok .nothingToDo) := he
    cases ha
  | prepared => cases he
  | cleanedUp s => cases he
  | isDone w => cases he
  | progress w => cases he
  | status s => cases he
  | relocated h => cases he
  | @taken w w' t ts a vs h => exact ⟨w', rfl, h.isDone_of_nothing hs he⟩

/-! ### What is read -/

/-- The text that a call hands out, if it hands out something. -/
def Entry.texts (e : Entry) : List String :=
  match e.answer with
  | .served (.ok r) => [r.wireText]
  | _ => []

theorem Entry.texts_eq (e : Entry) :
    e.texts = e.commands.map Command.text ∨ e.answer = .served (.ok .nothingToDo) := by
  obtain ⟨k, ts, a⟩ := e
  cases a with
  | served r =>
    rcases r with f | command | _
    · exact .inl rfl
    · exact .inl rfl
    · exact .inr rfl
  | _ => exact .inl rfl

/-- Either a call hands out the texts of its commands, or it hands out the sentinel and nothing is
left. -/
theorem Made.reads (h : Made c s e s') (hsettled : s.Settled) (hs : s.Issued) :
    (e.texts = e.commands.map Command.text ∧
      ∀ text ∈ e.texts, decide (text ≠ NextCommand.sentinel) = true) ∨
    (e.texts = [NextCommand.sentinel] ∧ e.commands = [] ∧
      ∃ w', s' = .prepared w' ∧ w'.isDone = true) := by
  rcases e.texts_eq with htexts | hnothing
  · refine .inl ⟨htexts, ?_⟩
    rw [htexts]
    intro text htext
    obtain ⟨command, hcommand, rfl⟩ := List.mem_map.mp htext
    exact decide_eq_true ((h.issued hs).1 command hcommand).text_ne
  · refine .inr ⟨?_, ?_, h.isDone_of_nothing hsettled hnothing⟩
    · rw [Entry.texts, hnothing]
      rfl
    · rw [Entry.commands, hnothing]

/-! ## Many calls -/

variable {σ : Type} (answer : (q : Device.Request) → σ → Device.Reply q × σ)

/-- A session with nothing left hands out no command, up to its end. -/
theorem commands_of_isDone {ks : List Call} (hks : .cleanup ∉ ks)
    (hw : (Session.prepared w).Settled) (hdone : w.isDone = true) (x : σ) :
    (history answer c ks (.prepared w) x).flatMap Entry.commands = [] := by
  induction ks generalizing w x with
  | nil => rfl
  | cons k ks ih =>
    rw [List.mem_cons, not_or] at hks
    obtain ⟨w', hafter, hw', -, hdone', -⟩ :=
      make_goes_on (c := c) answer (Ne.symm hks.1) hw x
    have hnone := (made (c := c) answer k hw x).commands_of_isDone (Ne.symm hks.1) hw hdone
    rw [history, List.flatMap_cons, hnone, hafter]
    exact ih hks.2 hw' (hdone' hdone) _

/-- The texts up to the sentinel are those of all commands that are handed out. -/
theorem takeWhile_texts {ks : List Call} (hks : .cleanup ∉ ks) (hsettled : s.Settled)
    (hs : s.Issued) (x : σ) :
    ((history answer c ks s x).flatMap Entry.texts).takeWhile (· ≠ NextCommand.sentinel) =
      ((history answer c ks s x).flatMap Entry.commands).map Command.text := by
  induction ks generalizing s x with
  | nil => rfl
  | cons k ks ih =>
    rw [List.mem_cons, not_or] at hks
    have hmade := made (c := c) answer k hsettled x
    rw [history, List.flatMap_cons, List.flatMap_cons, List.map_append]
    rcases hmade.reads hsettled hs with ⟨htexts, hne⟩ | ⟨htexts, hnone, w', hafter, hdone⟩
    · rw [List.takeWhile_append_of_pos hne, htexts]
      exact congrArg _ (ih hks.2 (hmade.settled hsettled) (hmade.issued hs).2 _)
    · -- here reading stops, and no command is behind
      have hw' := hmade.settled hsettled
      rw [hafter] at hw'
      have hbehind := commands_of_isDone (c := c) answer hks.2 hw' hdone
        ((c.make s k).run answer x).2
      rw [htexts, hnone, hafter, hbehind]
      simp

/-- **The sentinel.**  Behind any calls, whatever the policy does and the device answers: what a
request for a command hands out has the text of the sentinel exactly if there is nothing to do; this
it says only if nothing is left, neither package nor command; and whoever takes the texts that are
handed out up to the first sentinel, until the session is ended, gets the texts of all commands that
are handed out, and only these. -/
theorem sentinel_ends_commands (c : Coordinator) (ks : List Call) (x : σ) :
    let behind := afterAll answer c ks .new x
    let served := ((c.next behind.1).run answer behind.2).1
    (∀ r, served.result = .ok r → (r.wireText = NextCommand.sentinel ↔ r = .nothingToDo)) ∧
    (served.result = .ok .nothingToDo → served.after.isDone = .ok true ∧
      served.after.remaining = 0 ∧ served.after.status.pendingCommands = 0) ∧
    ∀ later : List Call, .cleanup ∉ later →
      let es := history answer c later behind.1 behind.2
      (es.flatMap Entry.texts).takeWhile (· ≠ NextCommand.sentinel) =
        (es.flatMap Entry.commands).map Command.text := by
  intro behind served
  have hnew : Session.new.Settled := trivial
  have hsettled : behind.1.Settled := settled_afterAll answer ks hnew x
  have hissued : behind.1.Issued :=
    kept_afterAll answer (fun h hs => (h.issued hs).2) ks hnew trivial x
  have hmade := made (c := c) answer (.take .next) hsettled behind.2
  have hrun : ((c.make behind.1 (.take .next)).run answer behind.2).1 =
      (.served served.result, served.after) := by
    rw [make, take, Dialogue.run_map]
  rw [hrun] at hmade
  refine ⟨?_, ?_, ?_⟩
  · intro r hr
    constructor
    · intro htext
      cases r with
      | nothingToDo => rfl
      | command command =>
        have hcommand : command.Issued := by
          refine (hmade.issued hissued).1 command ?_
          rw [Entry.commands, hr]
          exact List.mem_singleton_self command
        exact absurd htext hcommand.text_ne
    · rintro rfl
      rfl
  · intro hr
    obtain ⟨w', hafter, hdone⟩ := hmade.isDone_of_nothing hsettled (congrArg Answer.served hr)
    have hafter' : served.after = .prepared w' := hafter
    have hw' : served.after.Settled := hmade.settled hsettled
    rw [hafter'] at hw' ⊢
    obtain ⟨hremaining, hcommands⟩ := (isDone_iff hw').mp hdone
    exact ⟨congrArg Except.ok hdone, hremaining, hcommands⟩
  · intro later hlater
    exact takeWhile_texts answer hlater hsettled hissued behind.2

end Coordinator

end OtaCompile
