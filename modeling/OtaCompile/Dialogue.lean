/-!
# Dialogues: programs that ask questions

`Dialogue R α` is a finite tree that asks questions `q : Q`, goes on with the reply `r : R q` it
gets, and ends with a value of `α`.  What a question does is left to whoever answers:
`Dialogue.run` lets a state answer, `Dialogue.through` answers in another language of questions,
`Dialogue.interpret` answers in any monad.  `run_bind` and `through_bind` say that each of them goes
through a program step by step.
-/

namespace OtaCompile

inductive Dialogue {Q : Type} (R : Q → Type) (α : Type) : Type where
  | done (a : α)
  | ask (q : Q) (next : R q → Dialogue R α)

namespace Dialogue

variable {Q : Type} {R : Q → Type} {α β γ σ : Type}

protected def bind : Dialogue R α → (α → Dialogue R β) → Dialogue R β
  | .done a, f => f a
  | .ask q next, f => .ask q fun r => (next r).bind f

instance : Monad (Dialogue R) where
  pure := .done
  bind := Dialogue.bind

/-- Ask one question and end with its reply. -/
def question (q : Q) : Dialogue R (R q) := .ask q .done

@[simp] theorem pure_bind (a : α) (f : α → Dialogue R β) : (pure a >>= f) = f a := rfl

@[simp] theorem done_bind (a : α) (f : α → Dialogue R β) : (done a >>= f) = f a := rfl

@[simp] theorem ask_bind (q : Q) (next : R q → Dialogue R α) (f : α → Dialogue R β) :
    (ask q next >>= f) = ask q fun r => next r >>= f := rfl

@[simp] theorem question_bind (q : Q) (f : R q → Dialogue R β) :
    (question q >>= f) = ask q f := rfl

theorem bind_pure' (d : Dialogue R α) : (d >>= pure) = d := by
  induction d with
  | done a => rfl
  | ask q next ih => rw [ask_bind]; congr 1; exact funext ih

theorem bind_assoc' (d : Dialogue R α) (f : α → Dialogue R β) (g : β → Dialogue R γ) :
    (d >>= f >>= g) = (d >>= fun a => f a >>= g) := by
  induction d with
  | done a => rfl
  | ask q next ih => simp only [ask_bind]; congr 1; exact funext ih

instance : LawfulMonad (Dialogue R) :=
  LawfulMonad.mk' (Dialogue R)
    (fun d => bind_pure' d)
    (fun _ _ => rfl)
    (fun d f g => bind_assoc' d f g)

/-! ### A state that answers -/

/-- The value a dialogue ends with and the state it leaves behind. -/
def run (answer : (q : Q) → σ → R q × σ) : Dialogue R α → σ → α × σ
  | .done a, s => (a, s)
  | .ask q next, s => run answer (next (answer q s).1) (answer q s).2

/-- The questions a dialogue asks, in order. -/
def asked (answer : (q : Q) → σ → R q × σ) : Dialogue R α → σ → List Q
  | .done _, _ => []
  | .ask q next, s => q :: asked answer (next (answer q s).1) (answer q s).2

variable (answer : (q : Q) → σ → R q × σ)

@[simp] theorem run_pure (a : α) (s : σ) : run answer (pure a : Dialogue R α) s = (a, s) := rfl

@[simp] theorem run_done (a : α) (s : σ) : run answer (done a : Dialogue R α) s = (a, s) := rfl

@[simp] theorem run_ask (q : Q) (next : R q → Dialogue R α) (s : σ) :
    run answer (ask q next) s = run answer (next (answer q s).1) (answer q s).2 := rfl

@[simp] theorem run_question (q : Q) (s : σ) : run answer (question q) s = answer q s := rfl

theorem run_bind (d : Dialogue R α) (f : α → Dialogue R β) (s : σ) :
    run answer (d >>= f) s = run answer (f (run answer d s).1) (run answer d s).2 := by
  induction d generalizing s with
  | done a => rfl
  | ask q next ih => exact ih _ _

@[simp] theorem asked_pure (a : α) (s : σ) : asked answer (pure a : Dialogue R α) s = [] := rfl

@[simp] theorem asked_done (a : α) (s : σ) : asked answer (done a : Dialogue R α) s = [] := rfl

@[simp] theorem asked_ask (q : Q) (next : R q → Dialogue R α) (s : σ) :
    asked answer (ask q next) s = q :: asked answer (next (answer q s).1) (answer q s).2 := rfl

theorem asked_bind (d : Dialogue R α) (f : α → Dialogue R β) (s : σ) :
    asked answer (d >>= f) s =
      asked answer d s ++ asked answer (f (run answer d s).1) (run answer d s).2 := by
  induction d generalizing s with
  | done a => rfl
  | ask q next ih => exact congrArg (q :: ·) (ih _ _)

/-! ### Other answerers -/

/-- Answer in any monad. -/
def interpret {m : Type → Type} [Monad m] (answer : (q : Q) → m (R q)) : Dialogue R α → m α
  | .done a => pure a
  | .ask q next => answer q >>= fun r => interpret answer (next r)

/-- Answer each question by a dialogue in another language. -/
def through {P : Type} {S : P → Type} (answer : (q : Q) → Dialogue S (R q)) :
    Dialogue R α → Dialogue S α
  | .done a => .done a
  | .ask q next => answer q >>= fun r => through answer (next r)

theorem through_bind {P : Type} {S : P → Type} (answer : (q : Q) → Dialogue S (R q))
    (d : Dialogue R α) (f : α → Dialogue R β) :
    through answer (d >>= f) = through answer d >>= fun a => through answer (f a) := by
  induction d with
  | done a => rfl
  | ask q next ih =>
    show (answer q >>= fun r => through answer (next r >>= f)) = _
    simp only [ih]
    exact (bind_assoc' _ _ _).symm

end Dialogue

end OtaCompile
