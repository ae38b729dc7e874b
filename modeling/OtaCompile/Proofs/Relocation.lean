import Mathlib.Data.List.Basic
import OtaCompile.Device.Scripted
import OtaCompile.Proofs.Device
import OtaCompile.Proofs.Policy
import OtaCompile.Proofs.Translation
import OtaCompile.Relocation

/-!
# Relocation passes

What a pass asks the mover for is settled before the mover has answered anything: the moves of the
packages that the pass takes (`Relocator.moves`).  A `Visit` is a package with an answer to each of
its moves, and a pass consists of one visit a package, whatever the answers are (`leads_relocate`);
its report is a tally of the packages and of the answers, which every step of the pass keeps up
(`Relocator.tally`, `leads_perform`, `leads_relocatePackage`).  `relocate_pass` says what a pass
asks, counts and tells.  The moves of a package are what compiling it would produce, artifact by
artifact (`target_plan`), so a pass asks for the artifacts that the standard policy has compiled
(`relocate_asks_compiled`).
-/

namespace OtaCompile

open Procedure

/-! ## Packages on partitions -/

theorem Path.startsWith_iff (p base : Path) :
    p.startsWith base = true ↔ base.components <+: p.components :=
  List.isPrefixOf_iff_prefix

namespace Package

/-- There is code, and a path to some of it. -/
def Compilable (p : Package) : Prop := p.hasCode = true ∧ p.codePaths ≠ []
deriving Decidable

/-- The components of one of the roots come first in those of the package's directory. -/
def Under (p : Package) (roots : List Path) : Prop :=
  ∃ dir ∈ p.installDir, ∃ root ∈ roots, root.components <+: dir.components
deriving Decidable

theorem canOptimize_iff (p : Package) : p.canOptimize = true ↔ p.Compilable := by
  simp [canOptimize, Compilable]

theorem isUnderAny_iff (p : Package) (roots : List Path) :
    p.isUnderAny roots = true ↔ p.Under roots := by
  unfold isUnderAny Under
  cases p.installDir with
  | none => exact iff_of_false nofun nofun
  | some dir => simp [Path.startsWith_iff]

end Package

/-! ## What a pass asks for -/

/-- What the mover answers to a request. -/
abbrev Device.MoveReply := Except PlatformFault MoveOutcome

namespace Device.Exchange

/-- The artifacts asked for, if it is the mover that is asked. -/
def move? : Device.Exchange → Option (Path × InstructionSet × Path)
  | ⟨.move codePath isa dir, _⟩ => some (codePath, isa, dir)
  | _ => none

/-- The answer of the mover, if it is the mover that is asked. -/
def moveReply? : Device.Exchange → Option MoveReply
  | ⟨.move _ _ _, a⟩ => some a
  | _ => none

/-- The event of a relocation, if one is told. -/
def relocationEvent? : Device.Exchange → Option RelocationEvent
  | ⟨.report (.relocation e), _⟩ => some e
  | _ => none

end Device.Exchange

/-- Where an invocation leaves its artifacts. -/
def Invocation.artifact (i : Invocation) : Path × InstructionSet × Option Path :=
  (i.codePath, i.instructionSet, i.outputDir)

/-- The artifacts of one code path, which are to be moved. -/
structure Move where
  package : Package
  codePath : Path
  isa : InstructionSet
  dir : Path

namespace Move

variable (m : Move) (a : Device.MoveReply)

def request : Path × InstructionSet × Path := (m.codePath, m.isa, m.dir)

/-- What is told of an answer. -/
def told : Device.MoveReply → List RelocationEvent
  | .ok .moved => [.artifactMoved m.package.name m.codePath m.isa]
  | .ok .notStaged => []
  | .error f => [.artifactMoveFailed m.package.name m.codePath m.isa f.message]

end Move

namespace Relocator

variable (r : Relocator) (p : Package)

/-- The package has something to move and a place for it, and lies on no partition that never
changes. -/
def Takes : Prop := p.Compilable ∧ p.installDir ≠ none ∧ ¬ p.Under r.immutablePartitions
deriving Decidable

/-- The package has something to move, and no place for it or one that never changes. -/
def Skips : Prop := p.Compilable ∧ (p.installDir = none ∨ p.Under r.immutablePartitions)
deriving Decidable

/-- One move for each instruction set compiled for and each code path, into the directory `oat`. -/
def plan : List Move :=
  p.installDir.toList.flatMap fun dir =>
    ((p.instructionSetsOr r.defaultIsa).map r.translation.apply).eraseDups.flatMap fun isa =>
      p.codePaths.map fun codePath => ⟨p, codePath, isa, dir.join ⟨"oat"⟩⟩

/-- The moves that a pass asks for. -/
def moves : List Move := if r.Takes p then r.plan p else []

/-- Elements that contribute nothing may be left out. -/
theorem flatMap_filter {α β : Type} {f : α → List β} {keep : α → Bool}
    (h : ∀ a, keep a = false → f a = []) (as : List α) :
    (as.filter keep).flatMap f = as.flatMap f := by
  induction as with
  | nil => rfl
  | cons a as ih =>
    cases hkeep : keep a with
    | false => rw [List.filter_cons_of_neg (by simp [hkeep]), ih, List.flatMap_cons, h a hkeep,
        List.nil_append]
    | true => rw [List.filter_cons_of_pos hkeep, List.flatMap_cons, ih, List.flatMap_cons]

theorem flatMap_moves (ps : List Package) :
    ps.flatMap r.moves = (ps.filter (r.Takes ·)).flatMap r.plan := by
  have hidle (p : Package) (hp : decide (r.Takes p) = false) : r.moves p = [] :=
    if_neg (of_decide_eq_false hp)
  rw [← flatMap_filter hidle]
  exact List.flatMap_congr fun p hp => if_pos (of_decide_eq_true (List.mem_filter.mp hp).2)

/-! ## Visits -/

def tell (e : RelocationEvent) : Device.Exchange := ⟨.report e, ()⟩

/-- What is asked and told of an artifact that gets the answer. -/
def exchanges (m : Move) (a : Device.MoveReply) : List Device.Exchange :=
  ⟨.move m.codePath m.isa m.dir, a⟩ :: (m.told a).map tell

/-- A package that has something to move and no place for it is told to be skipped. -/
def homeless (p : Package) : List RelocationEvent :=
  if p.Compilable ∧ p.installDir = none then
    [.packageSkipped p.name "package has code but no install directory"]
  else []

/-- A package of a pass with the answers to its moves. -/
structure Visit (r : Relocator) where
  package : Package
  answered : List (Move × Device.MoveReply)
  moves_eq : answered.map Prod.fst = r.moves package

namespace Visit

variable {r : Relocator} (v : r.Visit)

def answers : List Device.MoveReply := v.answered.map Prod.snd

def events : List RelocationEvent :=
  homeless v.package ++ v.answered.flatMap fun x => x.1.told x.2

def exchanges : List Device.Exchange :=
  (homeless v.package).map tell ++ v.answered.flatMap fun x => Relocator.exchanges x.1 x.2

end Visit

/-- The report on a pass over the packages, in which the mover has given the answers. -/
def tally (ps : List Package) (answers : List Device.MoveReply) : RelocationReport where
  scanned := ps.length
  skipped := ps.countP (r.Skips ·)
  attempted := answers.length
  moved := answers.countP (· matches .ok .moved)
  notStaged := answers.countP (· matches .ok .notStaged)
  failed := answers.countP (· matches .error _)

/-- Every answer is of one of three kinds. -/
theorem attempted_tally (ps : List Package) (answers : List Device.MoveReply) :
    (r.tally ps answers).attempted = (r.tally ps answers).moved +
      (r.tally ps answers).notStaged + (r.tally ps answers).failed := by
  simp only [tally]
  induction answers with
  | nil => rfl
  | cons a answers ih =>
    rw [List.length_cons, ih]
    rcases a with f | _ | _ <;> simp <;> omega

/-! ## One step of a pass -/

/-- Ask for a move and count what comes of it. -/
def perform (report : RelocationReport) (m : Move) : Procedure RelocationReport :=
  moveOne m.package m.dir report m.isa m.codePath

variable {r p} {ps : List Package} {answers : List Device.MoveReply} {ts : List Device.Exchange}
  {report : RelocationReport}

theorem leads_perform {m : Move} (h : (perform (r.tally ps answers) m).Leads ts report) :
    ∃ a, ts = exchanges m a ∧ report = r.tally ps (answers ++ [a]) := by
  obtain ⟨a, ts, rfl, hanswered⟩ := Dialogue.leads_question.mp h
  refine ⟨a, ?_⟩
  rcases a with f | _ | _
  · obtain ⟨rfl, rfl⟩ := leads_emit_pure hanswered
    exact ⟨rfl, by simp [tally]⟩
  · obtain ⟨rfl, rfl⟩ := leads_emit_pure hanswered
    exact ⟨rfl, by simp [tally]⟩
  · obtain ⟨rfl, rfl⟩ := Dialogue.leads_pure.mp hanswered
    exact ⟨rfl, by simp [tally]⟩

theorem leads_moves {ms : List Move}
    (h : (ms.foldlM perform (r.tally ps answers)).Leads ts report) :
    ∃ answered : List (Move × Device.MoveReply), answered.map Prod.fst = ms ∧
      ts = answered.flatMap (fun x => exchanges x.1 x.2) ∧
      report = r.tally ps (answers ++ answered.map Prod.snd) := by
  induction ms generalizing answers ts with
  | nil =>
    obtain ⟨rfl, rfl⟩ := Dialogue.leads_pure.mp h
    exact ⟨[], rfl, rfl, by rw [List.map_nil, List.append_nil]⟩
  | cons m ms ih =>
    rw [List.foldlM_cons] at h
    obtain ⟨ts₁, behind, ts₂, rfl, hm, hms⟩ := Dialogue.leads_bind.mp h
    obtain ⟨a, rfl, rfl⟩ := leads_perform hm
    obtain ⟨answered, rfl, rfl, rfl⟩ := ih hms
    exact ⟨(m, a) :: answered, rfl, rfl, by simp⟩

/-- A loop within a loop is one loop. -/
theorem foldlM_flatMap {α β γ : Type} (f : γ → β → Procedure γ) (g : α → List β) (as : List α)
    (c : γ) : (as.flatMap g).foldlM f c = as.foldlM (fun c a => (g a).foldlM f c) c := by
  induction as generalizing c with
  | nil => rfl
  | cons a as ih => simp only [List.flatMap_cons, List.foldlM_append, List.foldlM_cons, ih]

theorem movePackage_eq {dir : Path} (hdir : p.installDir = some dir) (report : RelocationReport) :
    r.movePackage p (dir.join ⟨"oat"⟩) report = (r.plan p).foldlM perform report := by
  rw [movePackage, plan, hdir, Option.toList_some, List.flatMap_singleton, foldlM_flatMap,
    Translation.dexCode_eq]
  simp only [List.foldlM_map]
  rfl

/-- A package that is not skipped is only counted. -/
theorem tally_concat_of_not_skips (h : ¬ r.Skips p) :
    { r.tally ps answers with scanned := (r.tally ps answers).scanned + 1 } =
      r.tally (ps ++ [p]) answers := by
  simp [tally, h]

theorem tally_concat_of_skips (h : r.Skips p) :
    { r.tally ps answers with
      scanned := (r.tally ps answers).scanned + 1
      skipped := (r.tally ps answers).skipped + 1 } = r.tally (ps ++ [p]) answers := by
  simp [tally, h]

/-- A package that is not taken has a visit without moves. -/
theorem visit_of_not_takes (htakes : ¬ r.Takes p) (hts : ts = (homeless p).map tell)
    (hreport : report = r.tally (ps ++ [p]) answers) :
    ∃ v : r.Visit, v.package = p ∧ ts = v.exchanges ∧
      report = r.tally (ps ++ [p]) (answers ++ v.answers) := by
  refine ⟨⟨p, [], (if_neg htakes).symm⟩, rfl, ?_, ?_⟩
  · rw [hts, Visit.exchanges]
    exact (List.append_nil _).symm
  · rw [hreport, Visit.answers, List.map_nil, List.append_nil]

/-- What becomes of a package is a visit of it. -/
theorem leads_relocatePackage (h : (r.relocatePackage (r.tally ps answers) p).Leads ts report) :
    ∃ v : r.Visit, v.package = p ∧ ts = v.exchanges ∧
      report = r.tally (ps ++ [p]) (answers ++ v.answers) := by
  unfold relocatePackage at h
  by_cases hcode : p.Compilable
  · rw [if_pos (p.canOptimize_iff.mpr hcode), Package.artifactDir] at h
    cases hdir : p.installDir with
    | none =>
      rw [hdir] at h
      obtain ⟨rfl, rfl⟩ := leads_emit_pure h
      refine visit_of_not_takes (fun ht => ht.2.1 hdir) ?_
        (tally_concat_of_skips ⟨hcode, .inl hdir⟩)
      rw [homeless, if_pos ⟨hcode, hdir⟩]
      rfl
    | some dir =>
      have hhoused : homeless p = [] := if_neg (by simp [hdir])
      simp only [hdir, Option.map_some] at h
      by_cases hunder : p.Under r.immutablePartitions
      · rw [if_pos ((p.isUnderAny_iff _).mpr hunder)] at h
        obtain ⟨rfl, rfl⟩ := Dialogue.leads_pure.mp h
        refine visit_of_not_takes (fun ht => ht.2.2 hunder) ?_
          (tally_concat_of_skips ⟨hcode, .inr hunder⟩)
        rw [hhoused, List.map_nil]
      · have htakes : r.Takes p := ⟨hcode, by simp [hdir], hunder⟩
        have hskips : ¬ r.Skips p := fun hs => hs.2.elim (by simp [hdir]) hunder
        rw [if_neg (mt (p.isUnderAny_iff _).mp hunder), movePackage_eq hdir,
          tally_concat_of_not_skips hskips] at h
        obtain ⟨answered, hmoves, rfl, rfl⟩ := leads_moves h
        refine ⟨⟨p, answered, hmoves.trans (if_pos htakes).symm⟩, rfl, ?_, rfl⟩
        rw [Visit.exchanges, hhoused, List.map_nil, List.nil_append]
  · rw [if_neg (mt p.canOptimize_iff.mp hcode)] at h
    obtain ⟨rfl, rfl⟩ := Dialogue.leads_pure.mp h
    refine visit_of_not_takes (fun ht => hcode ht.1) ?_
      (tally_concat_of_not_skips fun hs => hcode hs.1)
    rw [homeless, if_neg fun hnone => hcode hnone.1, List.map_nil]

/-! ## A whole pass -/

theorem leads_packages {qs : List Package}
    (h : (qs.foldlM r.relocatePackage (r.tally ps answers)).Leads ts report) :
    ∃ vs : List r.Visit, vs.map Visit.package = qs ∧ ts = vs.flatMap Visit.exchanges ∧
      report = r.tally (ps ++ qs) (answers ++ vs.flatMap Visit.answers) := by
  induction qs generalizing ps answers ts with
  | nil =>
    obtain ⟨rfl, rfl⟩ := Dialogue.leads_pure.mp h
    exact ⟨[], rfl, rfl, by simp⟩
  | cons p qs ih =>
    rw [List.foldlM_cons] at h
    obtain ⟨ts₁, behind, ts₂, rfl, hp, hqs⟩ := Dialogue.leads_bind.mp h
    obtain ⟨v, rfl, rfl, rfl⟩ := leads_relocatePackage hp
    obtain ⟨vs, rfl, rfl, rfl⟩ := ih hqs
    exact ⟨v :: vs, rfl, rfl, by simp⟩

/-- A pass is one visit a package, and reports what they have come to. -/
theorem leads_relocate (h : (r.relocate ps).Leads ts report) :
    ∃ vs : List r.Visit, vs.map Visit.package = ps ∧
      ts = tell (.started ps.length) :: vs.flatMap Visit.exchanges ++ [tell (.completed report)] ∧
      report = r.tally ps (vs.flatMap Visit.answers) := by
  obtain ⟨ts, rfl, hpass⟩ := leads_emit h
  obtain ⟨ts₁, behind, ts₂, rfl, hpackages, hend⟩ := Dialogue.leads_bind.mp hpass
  obtain ⟨rfl, rfl⟩ := leads_emit_pure hend
  have hbegun : ({} : RelocationReport) = r.tally [] [] := rfl
  rw [hbegun] at hpackages
  obtain ⟨vs, hvs, rfl, rfl⟩ := leads_packages hpackages
  exact ⟨vs, hvs, rfl, rfl⟩

/-! ## What is seen of a pass -/

section Seen

variable (es : List RelocationEvent) (m : Move) (a : Device.MoveReply)

@[simp] theorem filterMap_move_tell : (es.map tell).filterMap Device.Exchange.move? = [] := by
  rw [List.filterMap_map]
  exact List.filterMap_eq_nil_iff.mpr fun _ _ => rfl

@[simp] theorem filterMap_moveReply_tell :
    (es.map tell).filterMap Device.Exchange.moveReply? = [] := by
  rw [List.filterMap_map]
  exact List.filterMap_eq_nil_iff.mpr fun _ _ => rfl

@[simp] theorem filterMap_relocationEvent_tell :
    (es.map tell).filterMap Device.Exchange.relocationEvent? = es := by
  rw [List.filterMap_map]
  exact List.filterMap_some

@[simp] theorem filterMap_move_exchanges :
    (exchanges m a).filterMap Device.Exchange.move? = [m.request] :=
  congrArg (m.request :: ·) (filterMap_move_tell _)

@[simp] theorem filterMap_moveReply_exchanges :
    (exchanges m a).filterMap Device.Exchange.moveReply? = [a] :=
  congrArg (a :: ·) (filterMap_moveReply_tell _)

@[simp] theorem filterMap_relocationEvent_exchanges :
    (exchanges m a).filterMap Device.Exchange.relocationEvent? = m.told a :=
  filterMap_relocationEvent_tell _

end Seen

section Visits

variable {r : Relocator} (v : r.Visit)

theorem filterMap_move_visit :
    v.exchanges.filterMap Device.Exchange.move? = (r.moves v.package).map Move.request := by
  rw [Visit.exchanges, List.filterMap_append, filterMap_move_tell, List.filterMap_flatMap,
    ← v.moves_eq, List.map_map, List.map_eq_flatMap]
  simp

theorem filterMap_moveReply_visit :
    v.exchanges.filterMap Device.Exchange.moveReply? = v.answers := by
  rw [Visit.exchanges, List.filterMap_append, filterMap_moveReply_tell, List.filterMap_flatMap,
    Visit.answers, List.map_eq_flatMap]
  simp

theorem filterMap_relocationEvent_visit :
    v.exchanges.filterMap Device.Exchange.relocationEvent? = v.events := by
  rw [Visit.exchanges, List.filterMap_append, filterMap_relocationEvent_tell,
    List.filterMap_flatMap]
  simp [Visit.events]

/-- What is seen of a pass is seen of its first event, of its visits and of its last event. -/
theorem filterMap_pass {α : Type} (f : Device.Exchange → Option α) (first last : RelocationEvent)
    (vs : List r.Visit) :
    (tell first :: vs.flatMap Visit.exchanges ++ [tell last]).filterMap f =
      (f (tell first)).toList ++ vs.flatMap (fun v => v.exchanges.filterMap f) ++
        (f (tell last)).toList := by
  have hone (e : RelocationEvent) : [tell e].filterMap f = (f (tell e)).toList := by
    cases h : f (tell e) <;> simp [h]
  rw [← List.singleton_append, List.filterMap_append, List.filterMap_append,
    List.filterMap_flatMap, hone, hone]

end Visits

variable {σ : Type} (answer : (q : Device.Request) → σ → Device.Reply q × σ)

/-- What the mover is asked has nothing to do with its answers. -/
theorem filterMap_move_relocate (r : Relocator) (ps : List Package) (x : σ) :
    ((r.relocate ps).transcript answer x).filterMap Device.Exchange.move? =
      (ps.flatMap r.moves).map Move.request := by
  obtain ⟨vs, rfl, hts, -⟩ := leads_relocate (Dialogue.leads_run answer (r.relocate ps) x)
  simp only [hts, filterMap_pass, filterMap_move_visit]
  simp [Device.Exchange.move?, tell, List.flatMap_map, List.map_flatMap]

/-- **Relocation passes.**  Whatever the mover answers, a pass asks it for the artifacts of the
packages it takes and of no others, in the order of the packages: a package is taken if it has code
and a code path, has a directory, and no partition's components come first in that directory's; its
artifacts are those of each instruction set compiled for, and within one of each code path.  The
report counts the packages, those that have something to move but are not taken, and the answers of
each kind.  The events come in the order of the packages between the first and the last, which has
the report: one for a package that has something to move and no directory, and one for each move
that is made or fails; and nothing else is asked or told. -/
theorem relocate_pass (r : Relocator) (ps : List Package) (x : σ) :
    let ts := (r.relocate ps).transcript answer x
    let report := ((r.relocate ps).run answer x).1
    let answers := ts.filterMap Device.Exchange.moveReply?
    ts.filterMap Device.Exchange.move? =
      ((ps.filter (r.Takes ·)).flatMap r.plan).map Move.request ∧
    (report.scanned = ps.length ∧ report.skipped = ps.countP (r.Skips ·) ∧
      report.attempted = answers.length ∧
      report.attempted = report.moved + report.notStaged + report.failed ∧
      report.moved = answers.countP (· matches .ok .moved) ∧
      report.notStaged = answers.countP (· matches .ok .notStaged) ∧
      report.failed = answers.countP (· matches .error _)) ∧
    ∃ vs : List r.Visit, vs.map Visit.package = ps ∧ vs.flatMap Visit.answers = answers ∧
      ts.filterMap Device.Exchange.relocationEvent? =
        .started ps.length :: vs.flatMap Visit.events ++ [.completed report] ∧
      ts =
        tell (.started ps.length) :: vs.flatMap Visit.exchanges ++ [tell (.completed report)] := by
  intro ts report answers
  obtain ⟨vs, hvs, hts, hreport⟩ := leads_relocate (Dialogue.leads_run answer (r.relocate ps) x)
  have hmoves : ts.filterMap Device.Exchange.move? =
      ((ps.filter (r.Takes ·)).flatMap r.plan).map Move.request := by
    rw [← flatMap_moves]
    exact filterMap_move_relocate answer r ps x
  have hanswers : answers = vs.flatMap Visit.answers := by
    simp only [answers, ts, hts, filterMap_pass, filterMap_moveReply_visit]
    simp [Device.Exchange.moveReply?, tell]
  have hevents : ts.filterMap Device.Exchange.relocationEvent? =
      .started ps.length :: vs.flatMap Visit.events ++ [.completed report] := by
    simp only [ts, hts, filterMap_pass, filterMap_relocationEvent_visit]
    rfl
  have htally : report = r.tally ps answers := by rw [hanswers]; exact hreport
  refine ⟨hmoves, ?_, vs, hvs, hanswers.symm, hevents, hts⟩
  rw [htally]
  exact ⟨rfl, rfl, rfl, r.attempted_tally ps answers, rfl, rfl, rfl⟩

/-! ## What compiling leaves behind -/

/-- The artifacts of a move, as an invocation names them. -/
def target (m : Move) : Path × InstructionSet × Option Path := (m.codePath, m.isa, some m.dir)

/-- The standard policy that goes by the same table and the same default as the relocator. -/
def compilation (r : Relocator) (filter : Option Compiler.Filter) : StandardPolicy where
  otaFilter := filter
  translation := r.translation
  defaultIsa := r.defaultIsa

variable (filter : Option Compiler.Filter) (options : CompileOptions)

/-- The moves of a package that has a directory are the artifacts of its invocations. -/
theorem target_plan {dir : Path} (hdir : p.installDir = some dir) :
    (r.plan p).map target =
      ((r.compilation filter).invocations p options).map Invocation.artifact := by
  have hartifacts : p.artifactDir = some (dir.join ⟨"oat"⟩) := by
    rw [Package.artifactDir, hdir]
    rfl
  rw [plan, hdir, Option.toList_some, List.flatMap_singleton, StandardPolicy.invocations,
    Translation.dexCode_eq]
  simp only [List.map_flatMap, List.map_map]
  refine congrArg (List.flatMap · _) (funext fun isa => List.map_congr_left fun codePath _ => ?_)
  simp only [Function.comp_apply, target, Invocation.artifact, StandardPolicy.invocation,
    hartifacts]

/-- A package that is not skipped has the moves of what is compiled of it. -/
theorem target_moves (r : Relocator) (p : Package) :
    (r.moves p).map target = if r.Skips p then [] else
      ((r.compilation filter).work p options).map Invocation.artifact := by
  by_cases hcode : p.Compilable
  · by_cases hskips : r.Skips p
    · have htakes : ¬ r.Takes p := fun ht => hskips.2.elim ht.2.1 ht.2.2
      rw [if_pos hskips, moves, if_neg htakes, List.map_nil]
    · have htakes : r.Takes p :=
        ⟨hcode, fun hnone => hskips ⟨hcode, .inl hnone⟩, fun hunder => hskips ⟨hcode, .inr hunder⟩⟩
      obtain ⟨dir, hdir⟩ := Option.ne_none_iff_exists'.mp htakes.2.1
      rw [if_neg hskips, moves, if_pos htakes, StandardPolicy.work,
        if_pos (p.canOptimize_iff.mpr hcode), target_plan filter options hdir]
  · have hskips : ¬ r.Skips p := fun hs => hcode hs.1
    have htakes : ¬ r.Takes p := fun ht => hcode ht.1
    rw [if_neg hskips, moves, if_neg htakes, StandardPolicy.work,
      if_neg (mt p.canOptimize_iff.mp hcode), List.map_nil, List.map_nil]

variable {β : Type}

/-- **A pass asks for what has been compiled.**  Whatever the mover answers, and with whatever
filter, flags and backend that refuses nothing: for a package that is not skipped the pass asks for
the artifacts of the invocations that the standard policy with the same table and default has the
backend execute, one by one and in order; and it asks for the same without the packages of which the
policy has nothing executed. -/
theorem relocate_asks_compiled (r : Relocator) (filter : Option Compiler.Filter)
    (options : CompileOptions) (yes : Backend.Request → β → Bool × β) (x : σ) (y : β) :
    let policy := r.compilation filter
    let backend : (q : Backend.Request) → β → Backend.Reply q × β :=
      fun q y => (Backend.grant (yes q y).1 q, (yes q y).2)
    let compiled (p : Package) : List Invocation :=
      ((policy.perform p options).asked backend y).filterMap Backend.Request.invocation?
    let asked (ps : List Package) : List (Path × InstructionSet × Path) :=
      ((r.relocate ps).transcript answer x).filterMap Device.Exchange.move?
    (∀ ps, (asked ps).map (fun (codePath, isa, dir) => (codePath, isa, some dir)) =
      ps.flatMap fun p => if r.Skips p then [] else
        (compiled p).map Invocation.artifact) ∧
    ∀ ps, asked ps = asked (ps.filter fun p => !(compiled p).isEmpty) := by
  intro policy backend compiled asked
  have hcompiled (p : Package) : compiled p = policy.work p options := by
    simp only [compiled, StandardPolicy.perform_eq]
    rw [Policy.asked_executeAll fun _ _ => rfl, List.filterMap_map]
    exact List.filterMap_some
  have hasked (ps : List Package) : asked ps = (ps.flatMap r.moves).map Move.request :=
    filterMap_move_relocate answer r ps x
  constructor
  · intro ps
    rw [hasked, List.map_map, List.map_flatMap]
    refine List.flatMap_congr fun p _ => ?_
    rw [hcompiled]
    exact target_moves filter options r p
  · intro ps
    have hidle (p : Package) (hp : (!(compiled p).isEmpty) = false) : r.moves p = [] := by
      have hnone : policy.work p options = [] := by simpa [hcompiled] using hp
      have hmoves := target_moves filter options r p
      rw [hnone, List.map_nil, ite_self] at hmoves
      exact List.map_eq_nil_iff.mp hmoves
    rw [hasked, hasked, flatMap_filter hidle]

/-- Two code paths are compiled and asked for; a package without code is neither. -/
theorem relocate_asks_compiled_two :
    let r : Relocator := { immutablePartitions := [⟨"/system"⟩], defaultIsa := .arm64 }
    let packages : List Package := [
      { name := "a", installDir := some ⟨"/data/app/a"⟩, codePaths := [⟨"base.apk"⟩, ⟨"split.apk"⟩],
        instructionSets := [.arm64] },
      { name := "b", hasCode := false }]
    let asked := ((r.relocate packages).transcript Device.Scripted.answer {}).filterMap
      Device.Exchange.move?
    asked = [
        (⟨"base.apk"⟩, .arm64, ⟨"/data/app/a/oat"⟩), (⟨"split.apk"⟩, .arm64, ⟨"/data/app/a/oat"⟩)] ∧
      asked.map (fun (codePath, isa, dir) => (codePath, isa, some dir)) =
        packages.flatMap fun p =>
          ((((r.compilation none).perform p default).asked
            (fun q (y : Unit) => (Backend.grant true q, y)) ()).filterMap
              Backend.Request.invocation?).map Invocation.artifact := by
  intro r packages asked
  have hpass := (relocate_asks_compiled Device.Scripted.answer r none default
    (fun _ y => (true, y)) {} ()).1 packages
  exact ⟨by decide, hpass⟩

end Relocator

end OtaCompile
