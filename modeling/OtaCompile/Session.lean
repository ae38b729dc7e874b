import OtaCompile.Package
import OtaCompile.Invocation
import OtaCompile.Report
import OtaCompile.Fault

/-!
# Sessions

A session takes over a list of packages, turns them into commands one package at a time, and hands
the commands out one by one.  `next` works in any monad, since what turns a package into commands is
given to it; it passes over packages that yield none.  A queue of commands is either absent or has
a command; one that is found empty ends the session.  A command handed out leaves a session that is
`Smaller`, and so does a fault that does not end it, which is why asking until nothing is left comes
to an end.
-/

namespace OtaCompile

/-- The work of a prepared session. -/
structure Work where
  /-- Packages not yet turned into commands. -/
  pending : List Package
  /-- Commands left of the package being served; absent if no package is. -/
  current : Option (List Command)
  /-- Packages taken over at the start. -/
  total : Nat
deriving DecidableEq, Repr

namespace Work

/-- A queue for commands, absent if there are none. -/
def queueOf (commands : List Command) : Option (List Command) :=
  if commands.isEmpty then none else some commands

@[simp] theorem queueOf_nil : queueOf [] = none := rfl

@[simp] theorem queueOf_cons (c : Command) (commands : List Command) :
    queueOf (c :: commands) = some (c :: commands) := rfl

theorem queueOf_ne_empty (commands : List Command) : queueOf commands ≠ some [] := by
  cases commands <;> simp

/-- The commands left of the package being served. -/
def queue (w : Work) : List Command := w.current.getD []

@[simp] theorem queue_none (pending : List Package) (total : Nat) :
    (⟨pending, none, total⟩ : Work).queue = [] := rfl

@[simp] theorem queue_some (pending : List Package) (commands : List Command) (total : Nat) :
    (⟨pending, some commands, total⟩ : Work).queue = commands := rfl

@[simp] theorem queue_queueOf (pending : List Package) (commands : List Command) (total : Nat) :
    (⟨pending, queueOf commands, total⟩ : Work).queue = commands := by
  cases commands <;> rfl

def isDone (w : Work) : Bool := w.pending.isEmpty && w.current.isNone

/-- Packages pending or being served. -/
def unfinished (w : Work) : Nat := w.pending.length + if w.current.isSome then 1 else 0

/-- Packages taken and not being served any more. -/
def progress (w : Work) : Progress :=
  if w.total = 0 then ⟨1, 1⟩ else ⟨w.total - w.unfinished, w.total⟩

end Work

inductive Session
  | idle
  | prepared (w : Work)
deriving DecidableEq, Repr

namespace Session

def new : Session := idle

def notPrepared (operation : String) : Fault :=
  SessionFault.notPrepared (operation ++ "()")

def lifecycle : Session → Lifecycle
  | idle => .uninitialized
  | prepared w => if w.isDone then .exhausted else .active

def isDone : Session → Except Fault Bool
  | idle => .error (notPrepared "is_done")
  | prepared w => .ok w.isDone

def progress : Session → Except Fault Progress
  | idle => .error (notPrepared "progress")
  | prepared w => .ok w.progress

def remaining : Session → Nat
  | idle => 0
  | prepared w => w.pending.length

def total : Session → Nat
  | idle => 0
  | prepared w => w.total

def status (s : Session) : Status where
  lifecycle := s.lifecycle
  total := s.total
  remaining := s.remaining
  pendingCommands := match s with
    | idle => 0
    | prepared w => w.queue.length
  progress := match s with
    | idle => 0
    | prepared w => w.progress.toFloat32

/-- Forget everything, at any time. -/
def cleanup (_ : Session) : Session := idle

/-- Packages and commands left, packages weighing more than any number of commands. -/
def size : Session → Nat × Nat
  | idle => (0, 0)
  | prepared w => (w.pending.length, w.queue.length)

def Smaller (a b : Session) : Prop := Prod.Lex (· < ·) (· < ·) a.size b.size

theorem smaller_wf : WellFounded Smaller :=
  InvImage.wf size (Prod.lex ⟨_, Nat.lt_wfRel.wf⟩ ⟨_, Nat.lt_wfRel.wf⟩).wf

instance : WellFoundedRelation Session := ⟨Smaller, smaller_wf⟩

variable {m : Type → Type} [Monad m]

/-- Take over the packages that `snapshot` yields; it is asked only if the session is idle. -/
def prepare (snapshot : m (List Package)) : Session → m (Except Fault Nat × Session)
  | idle => do
    let packages ← snapshot
    pure (.ok packages.length, prepared ⟨packages, none, packages.length⟩)
  | s => pure (.error SessionFault.alreadyPrepared, s)

/-- Take the next package without turning it into commands. -/
def pop (operation : String) : Session → Except Fault (Option Package × Session)
  | idle => .error (notPrepared operation)
  | prepared w =>
    match w.pending with
    | [] => .ok (none, prepared w)
    | p :: pending => .ok (some p, prepared { w with pending })

/-- The answer to one request for a command, and the session it leaves. -/
structure Served (before : Session) where
  result : Except Fault NextCommand
  after : Session
  smaller : ∀ c, result = .ok (.command c) → after.Smaller before
  smaller_of_fault : ∀ f, result = .error f → after = idle ∨ after.Smaller before

/-- What is served from less work than `b` is served from `b` too. -/
def Served.enlarge {a b : Session}
    (h : ∀ s : Session, s.Smaller a → s.Smaller b) (r : Served a) : Served b :=
  ⟨r.result, r.after, fun c hc => h _ (r.smaller c hc),
    fun f hf => (r.smaller_of_fault f hf).imp id (h _)⟩

theorem smaller_of_pending {s : Session} {p : Package} {pending : List Package}
    {queue current : Option (List Command)} {total : Nat}
    (h : s.Smaller (prepared ⟨pending, queue, total⟩)) :
    s.Smaller (prepared ⟨p :: pending, current, total⟩) := by
  have hle : s.size.1 ≤ pending.length := by
    rcases Prod.lex_def.1 h with h | h
    · exact Nat.le_of_lt h
    · exact Nat.le_of_eq h.1
  exact Prod.lex_def.2 (.inl (Nat.lt_of_le_of_lt hle (by simp [size])))

theorem smaller_of_command {pending : List Package} {c : Command} {queue : List Command}
    {total : Nat} :
    Smaller (prepared ⟨pending, Work.queueOf queue, total⟩)
      (prepared ⟨pending, some (c :: queue), total⟩) :=
  Prod.lex_def.2 (.inr ⟨rfl, by simp [size]⟩)

theorem smaller_of_package {p : Package} {pending : List Package}
    {queue current : Option (List Command)} {total : Nat} :
    Smaller (prepared ⟨pending, queue, total⟩) (prepared ⟨p :: pending, current, total⟩) :=
  Prod.lex_def.2 (.inl (by simp [size]))

/-- A queue that was left behind empty, which no package leaves, is a fault. -/
def emptyQueue? (p : Package) : Option (List Command) → Option Fault
  | some [] => some (SessionFault.invariantViolation p.name)
  | _ => none

theorem emptyQueue?_queueOf (p : Package) (commands : List Command) :
    emptyQueue? p (Work.queueOf commands) = none := by
  cases commands <;> rfl

/-- Serve from the queue, then from the packages behind it. -/
def serve (generate : Package → Nat → m (Except Fault (List Command))) (total : Nat) :
    (pending : List Package) → (current : Option (List Command)) →
      m (Served (prepared ⟨pending, current, total⟩))
  | pending, some (c :: queue) =>
    pure ⟨.ok (.command c), prepared ⟨pending, Work.queueOf queue, total⟩,
      fun _ _ => smaller_of_command, by simp⟩
  | [], current => pure ⟨.ok .nothingToDo, prepared ⟨[], current, total⟩, by simp, by simp⟩
  | p :: pending, current => do
    match ← generate p pending.length with
    | .error f =>
      pure ⟨.error f, prepared ⟨pending, current, total⟩, by simp,
        fun _ _ => .inr smaller_of_package⟩
    | .ok commands =>
      match emptyQueue? p (Work.queueOf commands) with
      | some f => pure ⟨.error f, idle, by simp, fun _ _ => .inl rfl⟩
      | none =>
        Served.enlarge (fun _ => smaller_of_pending) <$>
          serve generate total pending (Work.queueOf commands)

/-- Serve with the answer for the package in front, nothing being queued. -/
def serveAnswered (generate : Package → Nat → m (Except Fault (List Command))) (total : Nat)
    (p : Package) (pending : List Package) :
    Except Fault (List Command) → m (Served (prepared ⟨p :: pending, none, total⟩))
  | .error f =>
    pure ⟨.error f, prepared ⟨pending, none, total⟩, by simp, fun _ _ => .inr smaller_of_package⟩
  | .ok commands =>
    Served.enlarge (fun _ => smaller_of_pending) <$>
      serve generate total pending (Work.queueOf commands)

/-- Between two packages no queue is found empty. -/
theorem serve_cons_none (generate : Package → Nat → m (Except Fault (List Command))) (total : Nat)
    (p : Package) (pending : List Package) :
    serve generate total (p :: pending) none =
      generate p pending.length >>= serveAnswered generate total p pending := by
  rw [serve]
  · congr 1
    funext answer
    cases answer with
    | error f => rfl
    | ok commands => simp only [emptyQueue?_queueOf, serveAnswered]
  · exact nofun

/-- Hand out the next command.  `generate` gets a package and the number of packages behind it. -/
def next (generate : Package → Nat → m (Except Fault (List Command))) :
    (s : Session) → m (Served s)
  | idle =>
    pure ⟨.error (notPrepared "next_dexopt_command"), idle, by simp, fun _ _ => .inl rfl⟩
  | prepared ⟨pending, current, total⟩ => serve generate total pending current

end Session

end OtaCompile
