import OtaCompile.Proofs.Dialogue
import OtaCompile.Session

/-!
# Histories of sessions

A session that hands out commands asks one kind of question: what commands a package needs.  With
these questions left open it is a dialogue, and `history` lists what a sequence of calls to `next`
and `pop`, in any order, generated and came to.

`Next` says in five rules what one call of `next` may do, and `Step` adds what `pop` may do.  A
history is a chain of steps (`history_steps`), whoever answers the questions, as long as it starts
with no empty queue; what each step keeps is then kept by a whole history.
-/

namespace OtaCompile.Session

/-! ## Calls -/

/-- The commands of a package are asked for. -/
structure Request where
  package : Package
  /-- Packages behind it. -/
  remaining : Nat
deriving DecidableEq, Repr

@[reducible] def Reply : Request → Type := fun _ => Except Fault (List Command)

abbrev Talk := Dialogue Reply

def generate (p : Package) (remaining : Nat) : Talk (Except Fault (List Command)) :=
  .question (⟨p, remaining⟩ : Request)

/-- A request with its answer. -/
abbrev Generated := (q : Request) × Reply q

/-- A call that may take packages. -/
inductive Take
  | next
  | pop (operation : String)
deriving DecidableEq, Repr

inductive Outcome
  | served (r : Except Fault NextCommand)
  | popped (r : Except Fault (Option Package))

/-- Make a call. -/
def take (s : Session) : Take → Talk (Outcome × Session)
  | .next => do
    let served ← s.next generate
    return (.served served.result, served.after)
  | .pop operation =>
    match s.pop operation with
    | .error f => return (.popped (.error f), s)
    | .ok (p, s) => return (.popped (.ok p), s)

/-- The session that takes over a snapshot. -/
def begun (snapshot : List Package) : Session :=
  (Id.run (Session.new.prepare (pure snapshot))).2

@[simp] theorem begun_eq (snapshot : List Package) :
    begun snapshot = prepared ⟨snapshot, none, snapshot.length⟩ := rfl

/-! ## Histories -/

/-- What a call generated, and what it came to. -/
structure Entry where
  generated : List Generated
  outcome : Outcome

namespace Entry

/-- The packages a call took, whether it generated them or not. -/
def packages (e : Entry) : List Package :=
  e.generated.map (·.1.package) ++
    match e.outcome with
    | .popped (.ok (some p)) => [p]
    | _ => []

/-- The commands a call handed out. -/
def commands (e : Entry) : List Command :=
  match e.outcome with
  | .served (.ok (.command c)) => [c]
  | _ => []

/-- The commands of the packages a call generated. -/
def yield (e : Entry) : List Command :=
  e.generated.flatMap fun g => match g.2 with
    | .ok commands => commands
    | .error _ => []

/-- The fault a call ended with, if it did. -/
def fault? (e : Entry) : Option Fault :=
  match e.outcome with
  | .served (.error f) | .popped (.error f) => some f
  | _ => none

end Entry

section Run

variable {σ : Type} (answer : (q : Request) → σ → Reply q × σ)

/-- The entry of a call, the session it leaves, and the state of who answers. -/
def call (t : Take) (s : Session) (x : σ) : Entry × Session × σ :=
  let run := (s.take t).run answer x
  (⟨(s.take t).transcript answer x, run.1.1⟩, run.1.2, run.2)

/-- The entries of calls made one after the other. -/
def history : List Take → Session → σ → List Entry
  | [], _, _ => []
  | t :: ts, s, x =>
    let c := call answer t s x
    c.1 :: history ts c.2.1 c.2.2

/-- The session behind calls made one after the other. -/
def afterAll : List Take → Session → σ → Session
  | [], s, _ => s
  | t :: ts, s, x =>
    let c := call answer t s x
    afterAll ts c.2.1 c.2.2

end Run

/-! ## Steps -/

/-- One call of `next`: what it generates, what it comes to, and the work before and behind. -/
inductive Next : Work → List Generated → Except Fault NextCommand → Work → Prop
  | serve (pending : List Package) (c : Command) (queue : List Command) (total : Nat) :
    Next ⟨pending, some (c :: queue), total⟩ [] (.ok (.command c))
      ⟨pending, Work.queueOf queue, total⟩
  | finish (total : Nat) : Next ⟨[], none, total⟩ [] (.ok .nothingToDo) ⟨[], none, total⟩
  | fail (p : Package) (pending : List Package) (f : Fault) (total : Nat) :
    Next ⟨p :: pending, none, total⟩ [⟨⟨p, pending.length⟩, .error f⟩] (.error f)
      ⟨pending, none, total⟩
  | pass (p : Package) {pending : List Package} {commands : List Command} {total : Nat}
      {gs : List Generated} {r : Except Fault NextCommand} {w : Work}
      (h : Next ⟨pending, Work.queueOf commands, total⟩ gs r w) :
    Next ⟨p :: pending, none, total⟩ (⟨⟨p, pending.length⟩, .ok commands⟩ :: gs) r w

/-- One call of any kind. -/
inductive Step : Work → Entry → Work → Prop
  | next {w w' : Work} {gs : List Generated} {r : Except Fault NextCommand} (h : Next w gs r w') :
    Step w ⟨gs, .served r⟩ w'
  | pop (p : Package) (pending : List Package) (current : Option (List Command)) (total : Nat) :
    Step ⟨p :: pending, current, total⟩ ⟨[], .popped (.ok (some p))⟩ ⟨pending, current, total⟩
  | popNone (current : Option (List Command)) (total : Nat) :
    Step ⟨[], current, total⟩ ⟨[], .popped (.ok none)⟩ ⟨[], current, total⟩

/-- One call after the other. -/
inductive Steps : Work → List Entry → Work → Prop
  | nil (w : Work) : Steps w [] w
  | cons {w w' w'' : Work} {e : Entry} {es : List Entry} (h : Step w e w') (hs : Steps w' es w'') :
    Steps w (e :: es) w''

/-- A call leaves no empty queue. -/
theorem Next.current_ne {w w' : Work} {gs : List Generated} {r : Except Fault NextCommand}
    (h : Next w gs r w') : w'.current ≠ some [] := by
  induction h with
  | serve pending c queue total => exact Work.queueOf_ne_empty queue
  | finish total => simp
  | fail p pending f total => simp
  | pass p h ih => exact ih

theorem Step.current_ne {w w' : Work} {e : Entry} (h : Step w e w')
    (hw : w.current ≠ some []) : w'.current ≠ some [] := by
  cases h with
  | next h => exact h.current_ne
  | pop p pending current total => exact hw
  | popNone current total => exact hw

theorem Next.total_eq {w w' : Work} {gs : List Generated} {r : Except Fault NextCommand}
    (h : Next w gs r w') : w'.total = w.total := by
  induction h with
  | serve pending c queue total => rfl
  | finish total => rfl
  | fail p pending f total => rfl
  | pass p h ih => exact ih

theorem Step.total_eq {w w' : Work} {e : Entry} (h : Step w e w') : w'.total = w.total := by
  cases h with
  | next h => exact h.total_eq
  | pop p pending current total => rfl
  | popNone current total => rfl

variable {σ : Type} (answer : (q : Request) → σ → Reply q × σ)

/-- `serve` does what the rules say. -/
theorem serve_next (total : Nat) : ∀ (pending : List Package) (current : Option (List Command)),
    current ≠ some [] → ∀ x : σ, ∃ w',
      ((serve generate total pending current).run answer x).1.after = prepared w' ∧
      Next ⟨pending, current, total⟩ ((serve generate total pending current).transcript answer x)
        ((serve generate total pending current).run answer x).1.result w' := by
  intro pending
  induction pending with
  | nil =>
    rintro (_ | _ | ⟨c, queue⟩) hcurrent x
    · exact ⟨_, rfl, .finish total⟩
    · exact absurd rfl hcurrent
    · exact ⟨_, rfl, .serve [] c queue total⟩
  | cons p pending ih =>
    rintro (_ | _ | ⟨c, queue⟩) hcurrent x
    · rw [serve_cons_none]
      simp only [generate, Dialogue.question_bind, Dialogue.run_ask, Dialogue.transcript_ask]
      cases answer ⟨p, pending.length⟩ x with
      | mk reply x =>
        cases reply with
        | error f => exact ⟨_, rfl, .fail p pending f total⟩
        | ok commands =>
          obtain ⟨w', hafter, hnext⟩ :=
            ih (Work.queueOf commands) (Work.queueOf_ne_empty commands) x
          rw [serveAnswered, Dialogue.run_map, Dialogue.transcript_map]
          exact ⟨w', hafter, .pass p hnext⟩
    · exact absurd rfl hcurrent
    · exact ⟨_, rfl, .serve (p :: pending) c queue total⟩

/-- A call of `next` is served from the work. -/
theorem call_next_eq (pending : List Package) (current : Option (List Command)) (total : Nat)
    (x : σ) :
    call answer .next (prepared ⟨pending, current, total⟩) x =
      (⟨(serve generate total pending current).transcript answer x,
        .served ((serve generate total pending current).run answer x).1.result⟩,
        ((serve generate total pending current).run answer x).1.after,
        ((serve generate total pending current).run answer x).2) := by
  simp only [call, take, next, Dialogue.run_bind, Dialogue.transcript_bind, Dialogue.run_pure,
    Dialogue.transcript_pure, List.append_nil]

theorem call_step (t : Take) {w : Work} (hw : w.current ≠ some []) (x : σ) :
    ∃ w', (call answer t (prepared w) x).2.1 = prepared w' ∧
      Step w (call answer t (prepared w) x).1 w' := by
  obtain ⟨pending, current, total⟩ := w
  cases t with
  | next =>
    obtain ⟨w', hafter, hnext⟩ := serve_next answer total pending current hw x
    rw [call_next_eq]
    exact ⟨w', hafter, .next hnext⟩
  | pop operation =>
    cases pending with
    | nil => exact ⟨_, rfl, .popNone current total⟩
    | cons p pending => exact ⟨_, rfl, .pop p pending current total⟩

/-- A history is a chain of steps, whoever answers. -/
theorem history_steps (ts : List Take) {w : Work} (hw : w.current ≠ some []) (x : σ) :
    ∃ w', afterAll answer ts (prepared w) x = prepared w' ∧
      Steps w (history answer ts (prepared w) x) w' := by
  induction ts generalizing w x with
  | nil => exact ⟨w, rfl, .nil w⟩
  | cons t ts ih =>
    obtain ⟨w₁, hafter, hstep⟩ := call_step answer t hw x
    obtain ⟨w₂, hlast, hsteps⟩ := ih (hstep.current_ne hw) (call answer t (prepared w) x).2.2
    refine ⟨w₂, ?_, ?_⟩
    · rw [afterAll, hafter]
      exact hlast
    · rw [history, hafter]
      exact .cons hstep hsteps

end OtaCompile.Session
