import OtaCompile.Dialogue

/-!
# Transcripts of dialogues

The transcript of a run lists its questions with the replies they got.  A run gets the same replies,
and leaves the same state, as its questions would if they were asked one after the other
(`transcript_eq_replies`, `run_snd`), so what is known of the questions is known of the replies.
Answerers that answer the same, in states that stay related, are not told apart by any dialogue
(`SameAnswers.run`).  `Within P V` says of a dialogue, whatever it is replied, that its questions
are in `P` and the value it ends with is in `V`.  `Leads d ts a` says that the exchanges `ts` lead
`d` to `a`, which the transcript of every run does (`leads_run`); it is taken apart along the
dialogue, and no answerer or state of one has to be carried along (`leads_bind`).  Where the states
matter, `Runs` has them as well (`runs_bind`).
-/

namespace OtaCompile.Dialogue

variable {Q : Type} {R : Q → Type} {α β σ : Type} (answer : (q : Q) → σ → R q × σ)

/-- The questions a dialogue asks, each with its reply. -/
def transcript : Dialogue R α → σ → List ((q : Q) × R q)
  | .done _, _ => []
  | .ask q next, s => ⟨q, (answer q s).1⟩ :: transcript (next (answer q s).1) (answer q s).2

/-- Questions asked one after the other, each with its reply. -/
def replies : List Q → σ → List ((q : Q) × R q)
  | [], _ => []
  | q :: qs, s => ⟨q, (answer q s).1⟩ :: replies qs (answer q s).2

/-- The state behind questions asked one after the other. -/
def behind : List Q → σ → σ
  | [], s => s
  | q :: qs, s => behind qs (answer q s).2

@[simp] theorem transcript_done (a : α) (s : σ) :
    transcript answer (done a : Dialogue R α) s = [] := rfl

@[simp] theorem transcript_pure (a : α) (s : σ) :
    transcript answer (pure a : Dialogue R α) s = [] := rfl

@[simp] theorem transcript_ask (q : Q) (next : R q → Dialogue R α) (s : σ) :
    transcript answer (ask q next) s =
      ⟨q, (answer q s).1⟩ :: transcript answer (next (answer q s).1) (answer q s).2 := rfl

theorem transcript_bind (d : Dialogue R α) (f : α → Dialogue R β) (s : σ) :
    transcript answer (d >>= f) s =
      transcript answer d s ++ transcript answer (f (run answer d s).1) (run answer d s).2 := by
  induction d generalizing s with
  | done a => rfl
  | ask q next ih => exact congrArg (⟨q, (answer q s).1⟩ :: ·) (ih _ _)

@[simp] theorem run_map (f : α → β) (d : Dialogue R α) (s : σ) :
    run answer (f <$> d) s = (f (run answer d s).1, (run answer d s).2) := by
  rw [map_eq_pure_bind, run_bind]
  rfl

@[simp] theorem asked_map (f : α → β) (d : Dialogue R α) (s : σ) :
    asked answer (f <$> d) s = asked answer d s := by
  rw [map_eq_pure_bind, asked_bind]
  exact List.append_nil _

@[simp] theorem transcript_map (f : α → β) (d : Dialogue R α) (s : σ) :
    transcript answer (f <$> d) s = transcript answer d s := by
  rw [map_eq_pure_bind, transcript_bind]
  exact List.append_nil _

/-- Whoever answers in another language is run question by question. -/
theorem run_through {P τ : Type} {S : P → Type} (outer : (p : P) → τ → S p × τ)
    (inner : (q : Q) → Dialogue S (R q)) (d : Dialogue R α) (t : τ) :
    run outer (through inner d) t = run (fun q => run outer (inner q)) d t := by
  induction d generalizing t with
  | done a => rfl
  | ask q next ih =>
    rw [through, run_bind, run_ask]
    exact ih _ _

/-! ### Replies to a list of questions -/

@[simp] theorem map_fst_transcript (d : Dialogue R α) (s : σ) :
    (transcript answer d s).map Sigma.fst = asked answer d s := by
  induction d generalizing s with
  | done a => rfl
  | ask q next ih => exact congrArg (q :: ·) (ih _ _)

theorem transcript_eq_replies (d : Dialogue R α) (s : σ) :
    transcript answer d s = replies answer (asked answer d s) s := by
  induction d generalizing s with
  | done a => rfl
  | ask q next ih => exact congrArg (⟨q, (answer q s).1⟩ :: ·) (ih _ _)

theorem run_snd (d : Dialogue R α) (s : σ) :
    (run answer d s).2 = behind answer (asked answer d s) s := by
  induction d generalizing s with
  | done a => rfl
  | ask q next ih => exact ih _ _

theorem replies_append (qs qs' : List Q) (s : σ) :
    replies answer (qs ++ qs') s =
      replies answer qs s ++ replies answer qs' (behind answer qs s) := by
  induction qs generalizing s with
  | nil => rfl
  | cons q qs ih => exact congrArg (⟨q, (answer q s).1⟩ :: ·) (ih _)

/-! ### The same answers -/

/-- In related states both answer the same, and are left in related states. -/
def SameAnswers {τ : Type} (answer : (q : Q) → σ → R q × σ) (answer' : (q : Q) → τ → R q × τ)
    (rel : σ → τ → Prop) : Prop :=
  ∀ q x y, rel x y → (answer q x).1 = (answer' q y).1 ∧ rel (answer q x).2 (answer' q y).2

theorem SameAnswers.run {τ : Type} {answer : (q : Q) → σ → R q × σ}
    {answer' : (q : Q) → τ → R q × τ} {rel : σ → τ → Prop} (h : SameAnswers answer answer' rel)
    (d : Dialogue R α) {x : σ} {y : τ} (hxy : rel x y) :
    (run answer d x).1 = (run answer' d y).1 ∧ rel (run answer d x).2 (run answer' d y).2 ∧
      transcript answer d x = transcript answer' d y := by
  induction d generalizing x y with
  | done a => exact ⟨rfl, hxy, rfl⟩
  | ask q next ih =>
    obtain ⟨hreply, hrel⟩ := h q x y hxy
    rw [run_ask, run_ask, transcript_ask, transcript_ask, hreply]
    obtain ⟨hvalue, hstate, htranscript⟩ := ih (answer' q y).1 hrel
    exact ⟨hvalue, hstate, congrArg (_ :: ·) htranscript⟩

/-! ### What a dialogue may ask and end with -/

/-- All questions are in `P` and the value is in `V`, whatever the replies. -/
inductive Within (P : Q → Prop) (V : α → Prop) : Dialogue R α → Prop
  | done {a : α} (h : V a) : Within P V (.done a)
  | ask {q : Q} {next : R q → Dialogue R α} (hq : P q) (h : ∀ r, Within P V (next r)) :
    Within P V (.ask q next)

variable {P : Q → Prop} {V : α → Prop} {W : β → Prop}

theorem Within.bind {d : Dialogue R α} {f : α → Dialogue R β} (hd : Within P V d)
    (hf : ∀ a, V a → Within P W (f a)) : Within P W (d >>= f) := by
  induction hd with
  | done h => exact hf _ h
  | ask hq h ih => exact .ask hq ih

theorem Within.run {d : Dialogue R α} (hd : Within P V d) (s : σ) : V (d.run answer s).1 := by
  induction hd generalizing s with
  | done h => exact h
  | ask hq h ih => exact ih _ _

theorem Within.asked {d : Dialogue R α} (hd : Within P V d) (s : σ) :
    ∀ q ∈ d.asked answer s, P q := by
  induction hd generalizing s with
  | done h => exact nofun
  | ask hq h ih =>
    intro q hmem
    rcases List.mem_cons.mp hmem with rfl | hmem
    · exact hq
    · exact ih _ _ q hmem

/-! ### Where exchanges lead to -/

/-- The exchanges lead the dialogue to the value. -/
inductive Leads : Dialogue R α → List ((q : Q) × R q) → α → Prop
  | done (a : α) : Leads (.done a) [] a
  | ask (q : Q) {next : R q → Dialogue R α} (r : R q) {ts : List ((q : Q) × R q)} {a : α}
    (h : Leads (next r) ts a) : Leads (.ask q next) (⟨q, r⟩ :: ts) a

theorem leads_run (d : Dialogue R α) (s : σ) :
    Leads d (transcript answer d s) (run answer d s).1 := by
  induction d generalizing s with
  | done a => exact .done a
  | ask q next ih => exact .ask q _ (ih _ _)

variable {ts : List ((q : Q) × R q)}

theorem leads_pure {a b : α} : Leads (pure a : Dialogue R α) ts b ↔ ts = [] ∧ b = a := by
  constructor
  · intro h
    cases h
    exact ⟨rfl, rfl⟩
  · rintro ⟨rfl, rfl⟩
    exact .done _

theorem leads_ask {q : Q} {next : R q → Dialogue R α} {a : α} :
    Leads (ask q next) ts a ↔ ∃ r ts', ts = ⟨q, r⟩ :: ts' ∧ Leads (next r) ts' a := by
  constructor
  · intro h
    cases h with
    | ask q r h => exact ⟨r, _, rfl, h⟩
  · rintro ⟨r, ts', rfl, h⟩
    exact .ask q r h

theorem leads_bind {d : Dialogue R α} {f : α → Dialogue R β} {b : β} :
    Leads (d >>= f) ts b ↔
      ∃ ts₁ a ts₂, ts = ts₁ ++ ts₂ ∧ Leads d ts₁ a ∧ Leads (f a) ts₂ b := by
  constructor
  · intro h
    induction d generalizing ts with
    | done a => exact ⟨[], a, ts, rfl, .done a, h⟩
    | ask q next ih =>
      obtain ⟨r, ts', rfl, h'⟩ := leads_ask.mp h
      obtain ⟨ts₁, a, ts₂, rfl, h₁, h₂⟩ := ih r h'
      exact ⟨⟨q, r⟩ :: ts₁, a, ts₂, rfl, .ask q r h₁, h₂⟩
  · rintro ⟨ts₁, a, ts₂, rfl, h₁, h₂⟩
    induction h₁ with
    | done a => exact h₂
    | ask q r h ih => exact .ask q r (ih h₂)

theorem leads_question {q : Q} {f : R q → Dialogue R β} {b : β} :
    Leads (question q >>= f) ts b ↔ ∃ r ts', ts = ⟨q, r⟩ :: ts' ∧ Leads (f r) ts' b := by
  rw [question_bind]
  exact leads_ask

theorem leads_map {d : Dialogue R α} {f : α → β} {b : β} :
    Leads (f <$> d) ts b ↔ ∃ a, b = f a ∧ Leads d ts a := by
  rw [map_eq_pure_bind, leads_bind]
  constructor
  · rintro ⟨ts₁, a, ts₂, rfl, h₁, h₂⟩
    obtain ⟨rfl, rfl⟩ := leads_pure.mp h₂
    exact ⟨a, rfl, (List.append_nil ts₁).symm ▸ h₁⟩
  · rintro ⟨a, rfl, h⟩
    exact ⟨ts, a, [], (List.append_nil ts).symm, h, .done _⟩

/-! ### Exchanges between states -/

/-- From the one state the dialogue has the exchanges, and it ends with the value in the other. -/
def Runs (d : Dialogue R α) (s : σ) (ts : List ((q : Q) × R q)) (a : α) (s' : σ) : Prop :=
  transcript answer d s = ts ∧ run answer d s = (a, s')

variable {answer} {s s' : σ}

theorem Runs.leads {d : Dialogue R α} {a : α} (h : Runs answer d s ts a s') : Leads d ts a := by
  obtain ⟨rfl, hrun⟩ := h
  have hleads := leads_run answer d s
  rwa [hrun] at hleads

theorem runs_pure {a b : α} :
    Runs answer (pure a : Dialogue R α) s ts b s' ↔ ts = [] ∧ b = a ∧ s' = s := by
  rw [Runs, transcript_pure, run_pure, Prod.mk.injEq, eq_comm, eq_comm (a := a), eq_comm (a := s)]

theorem runs_ask {q : Q} {next : R q → Dialogue R α} {a : α} :
    Runs answer (ask q next) s ts a s' ↔
      ∃ ts', ts = ⟨q, (answer q s).1⟩ :: ts' ∧
        Runs answer (next (answer q s).1) (answer q s).2 ts' a s' := by
  rw [Runs, transcript_ask, run_ask]
  constructor
  · rintro ⟨rfl, hrun⟩
    exact ⟨_, rfl, rfl, hrun⟩
  · rintro ⟨_, rfl, rfl, hrun⟩
    exact ⟨rfl, hrun⟩

theorem runs_question {q : Q} {f : R q → Dialogue R β} {b : β} :
    Runs answer (question q >>= f) s ts b s' ↔
      ∃ ts', ts = ⟨q, (answer q s).1⟩ :: ts' ∧
        Runs answer (f (answer q s).1) (answer q s).2 ts' b s' := by
  rw [question_bind]
  exact runs_ask

theorem runs_bind {d : Dialogue R α} {f : α → Dialogue R β} {b : β} :
    Runs answer (d >>= f) s ts b s' ↔
      ∃ ts₁ a s₁ ts₂, ts = ts₁ ++ ts₂ ∧ Runs answer d s ts₁ a s₁ ∧
        Runs answer (f a) s₁ ts₂ b s' := by
  rw [Runs, transcript_bind, run_bind]
  constructor
  · rintro ⟨rfl, hrun⟩
    exact ⟨_, _, _, _, rfl, ⟨rfl, rfl⟩, rfl, hrun⟩
  · rintro ⟨ts₁, a, s₁, ts₂, rfl, ⟨rfl, hd⟩, rfl, hf⟩
    rw [hd]
    exact ⟨rfl, hf⟩

end OtaCompile.Dialogue
