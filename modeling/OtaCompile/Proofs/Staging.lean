import OtaCompile.Proofs.Dialogue
import OtaCompile.Proofs.FileView

/-!
# Moves of staged artifacts

The files of a set are moved one after the other (`moveFile_runs`, `moveCompanions_runs`), and the
first change that is refused ends the move.  So a move that is granted every change takes all staged
files of the set to the target and changes no other file (`move_outcome`).  One that fails leaves
those behind it that it has moved before (`failed_move_leaves`); if one of them was the file that
decides whether the set is staged, nobody comes back for the others.
-/

namespace OtaCompile

variable {codePath : Path} {name : String}

namespace Host

variable {staging dir : Path} {isa : InstructionSet}

/-- Where the artifacts of an instruction set are staged. -/
def sourceFor (staging dir : Path) (isa : InstructionSet) : Path :=
  (stagedDir staging dir).join ⟨Named.name isa⟩

/-- Where they belong. -/
def targetFor (dir : Path) (isa : InstructionSet) : Path := dir.join ⟨Named.name isa⟩

theorem moveArtifacts_of_no_odex (h : artifactFileName codePath "odex" = none) :
    moveArtifacts staging codePath isa dir = pure (.ok .notStaged) := by
  have hnames : artifactFileNames codePath = none := by
    simp [artifactFileNames, artifactExtensions, h]
  delta moveArtifacts
  rw [hnames]

theorem moveArtifacts_of_odex (h : artifactFileName codePath "odex" = some name) :
    ∃ companions, setNames codePath = name :: companions ∧
      moveArtifacts staging codePath isa dir =
        moveSet (sourceFor staging dir isa) (targetFor dir isa) name companions := by
  obtain ⟨stem, hstem, rfl⟩ := Option.map_eq_some_iff.mp h
  have hnames : artifactFileNames codePath =
      some (artifactExtensions.map (Path.nameWithExtension stem)) := by
    simp [artifactFileNames, artifactExtensions, artifactFileName, hstem]
  refine ⟨_, setNames_of_fileStem hstem, ?_⟩
  delta moveArtifacts
  rw [hnames]
  rfl

/-! ## Refusals -/

/-- A request with its reply. -/
abbrev Exchange := (q : Request) × Reply q

/-- What a change of directories and files was refused with. -/
def Exchange.refusal? : Exchange → Option IoFailure
  | ⟨.makeDirs _, .error f⟩ => some f
  | ⟨.rename _ _, .error f⟩ => some f
  | _ => none

def refusals (ts : List Exchange) : List IoFailure := ts.filterMap Exchange.refusal?

theorem refusals_append (ts ts' : List Exchange) :
    refusals (ts ++ ts') = refusals ts ++ refusals ts' :=
  List.filterMap_append

/-! ## Staged files -/

section Staged

variable {σ : Type} (answer : (q : Request) → σ → Reply q × σ) (x : σ) (source : Path)

/-- Whether there is a file of a name in a directory. -/
def isStaged (name : String) : Bool := (answer (.isFile (source.join ⟨name⟩)) x).1

/-- The first file of a set decides whether the set is staged. -/
def isSetStaged (codePath : Path) : Bool :=
  (artifactFileName codePath "odex").any (isStaged answer x source)

/-- The files of a set that are there. -/
def staged (codePath : Path) : List String := (setNames codePath).filter (isStaged answer x source)

variable {answer x source}

theorem isSetStaged_eq_true_iff {codePath : Path} :
    isSetStaged answer x source codePath = true ↔
      ∃ odex, artifactFileName codePath "odex" = some odex ∧
        isStaged answer x source odex = true := by
  rw [isSetStaged, Option.any_eq_true]

theorem isSetStaged_eq_false_iff {codePath : Path} :
    isSetStaged answer x source codePath = false ↔
      codePath.fileStem = none ∨
        ∃ odex, artifactFileName codePath "odex" = some odex ∧
          isStaged answer x source odex = false := by
  rw [isSetStaged, artifactFileName]
  cases codePath.fileStem <;> simp

/-- The file that decides comes first. -/
theorem staged_eq_cons {codePath : Path} {odex : String}
    (hodex : artifactFileName codePath "odex" = some odex)
    (hstaged : isStaged answer x source odex = true) :
    ∃ others, staged answer x source codePath = odex :: others := by
  rw [staged, setNames, artifactExtensions, List.filterMap_cons_some hodex,
    List.filter_cons_of_pos hstaged]
  exact ⟨_, rfl⟩

/-- If there is no file with a dot or two for its name, what is staged is a set. -/
theorem isSet_of_isSetStaged {codePath : Path}
    (hdots : ∀ n, Path.IsDots n → isStaged answer x source n = false)
    (h : isSetStaged answer x source codePath = true) : IsSet (setNames codePath) := by
  obtain ⟨odex, hodex, hstaged⟩ := isSetStaged_eq_true_iff.mp h
  obtain ⟨stem, hstem, rfl⟩ := Option.map_eq_some_iff.mp hodex
  refine isSet_setNames hstem fun hdotted => ?_
  have hmem : Path.nameWithExtension stem "odex" ∈ setNames codePath :=
    List.mem_filterMap.mpr ⟨"odex", List.mem_cons_self, hodex⟩
  rw [hdots _ (isDots_of_mem_setNames hstem hdotted hmem)] at hstaged
  cases hstaged

end Staged

section Moves

open Dialogue (Runs runs_pure runs_bind runs_question)

variable {σ Dir : Type} [DecidableEq Dir] {v : FileView σ Dir}
  {answer : (q : Request) → σ → Reply q × σ} {source target : Path} {x x' x'' : σ} {s t : Dir}
  {gone names : List String} {ts : List Exchange}

/-- If its first file is there, a set is moved like files none of which need be there. -/
theorem moveSet_runs {first : String} {companions : List String}
    {r : Except PlatformFault MoveOutcome} (hfirst : isStaged answer x source first = true)
    (h : Runs answer (moveSet source target first companions) x ts r x') :
    ∃ r', r = r'.map (fun _ => .moved) ∧
      Runs answer (moveCompanions source target (first :: companions)) x ts r' x' := by
  have hreply : (answer (.isFile (source.join ⟨first⟩)) x).1 = true := hfirst
  obtain ⟨ts₁, rfl, hlook⟩ := runs_question.mp h
  rw [hreply, if_pos rfl] at hlook
  obtain ⟨ts₂, moved, x₁, ts₃, rfl, hfile, hnext⟩ := runs_bind.mp hlook
  cases moved with
  | error f =>
    obtain ⟨rfl, rfl, rfl⟩ := runs_pure.mp hnext
    refine ⟨.error f, rfl, runs_question.mpr ⟨_, rfl, ?_⟩⟩
    rw [hreply, if_pos rfl]
    exact runs_bind.mpr ⟨_, _, _, _, rfl, hfile, runs_pure.mpr ⟨rfl, rfl, rfl⟩⟩
  | ok =>
    obtain ⟨ts₄, r', x₂, ts₅, rfl, hothers, hend⟩ := runs_bind.mp hnext
    have hended : r = r'.map (fun _ => .moved) ∧ ts₅ = [] ∧ x' = x₂ := by
      cases r' with
      | error f => exact and_left_comm.mp (runs_pure.mp hend)
      | ok => exact and_left_comm.mp (runs_pure.mp hend)
    obtain ⟨rfl, rfl, rfl⟩ := hended
    refine ⟨r', rfl, runs_question.mpr ⟨_, rfl, ?_⟩⟩
    rw [hreply, if_pos rfl, List.append_nil]
    exact runs_bind.mpr ⟨_, _, _, _, rfl, hfile, hothers⟩

/-- Since `x`, the named files have gone from the one directory to the other, which the target leads
to, and nothing else has changed. -/
structure Gone (v : FileView σ Dir) (target : Path) (s t : Dir) (names : List String) (x x' : σ) :
    Prop where
  dirs : v.Extends x x'
  target : names = [] ∨ v.dir? x' target = some t
  files : v.files x' = (v.files x).moved names s t

theorem Gone.nil (x : σ) : Gone v target s t [] x x where
  dirs _ _ hdir := hdir
  target := .inl rfl
  files := Files.moved_nil.symm

theorem Gone.keeps (h : Gone v target s t gone x x') (h' : v.Keeps x' x'') :
    Gone v target s t gone x x'' where
  dirs := h.dirs.trans h'.dirs
  target := h.target.imp_right (h'.dirs _ _)
  files := h'.files.trans h.files

/-- One more file goes. -/
theorem Gone.concat {s' t' : Dir} (h : Gone v target s t gone x x') (hfresh : name ∉ gone)
    (hs : v.dir? x source = some s) (hs' : v.dir? x' source = some s')
    (ht' : v.dir? x' target = some t') (hdirs : v.Extends x' x'')
    (hfiles : v.files x'' = (v.files x').moved [name] s' t') :
    Gone v target s t' (gone ++ [name]) x x'' := by
  have hsource : s' = s := Option.some.inj (hs'.symm.trans (h.dirs _ _ hs))
  subst hsource
  refine ⟨h.dirs.trans hdirs, .inr (hdirs _ _ ht'), ?_⟩
  rw [hfiles, h.files, ← Files.moved_concat hfresh]
  rcases h.target with rfl | ht
  · rw [Files.moved_nil, Files.moved_nil]
  · rw [Option.some.inj (ht.symm.trans ht')]

variable (hv : v.Faithful answer)
include hv

theorem isStaged_eq (hname : Path.IsName name) (hs : v.dir? x source = some s) :
    isStaged answer x source name =
      (v.accepts (source.join ⟨name⟩) && (v.files x s name).isSome) := by
  rw [isStaged, hv.isFile_reply hname, hs, Option.bind_some]

/-- What has gone is staged no more, unless it has gone nowhere. -/
theorem Gone.isStaged_iff (h : Gone v target s t gone x x') (hs : v.dir? x source = some s)
    (hname : Path.IsName name) :
    isStaged answer x' source name = true ↔
      isStaged answer x source name = true ∧ (name ∈ gone → s = t) := by
  rw [Host.isStaged_eq hv hname hs, Host.isStaged_eq hv hname (h.dirs _ _ hs), h.files]
  by_cases hgone : name ∈ gone
  · by_cases hself : s = t
    · subst hself
      rw [Files.moved_self]
      simp
    · rw [Files.moved_source hgone hself]
      simp [hgone, hself]
  · rw [Files.moved_of_not_mem hgone]
    simp [hgone]

theorem Gone.isStaged_eq (h : Gone v target s t gone x x') (hs : v.dir? x source = some s)
    (hname : Path.IsName name) (hfresh : name ∉ gone) :
    isStaged answer x' source name = isStaged answer x source name := by
  rw [Bool.eq_iff_iff, h.isStaged_iff hv hs hname]
  exact and_iff_left fun hmem => absurd hmem hfresh

/-- There is a directory around a file that is there. -/
theorem exists_dir_of_isStaged (hname : Path.IsName name)
    (h : isStaged answer x source name = true) : ∃ s, v.dir? x source = some s := by
  rw [isStaged, hv.isFile_reply hname, Bool.and_eq_true, Option.isSome_iff_exists] at h
  obtain ⟨-, content, hcontent⟩ := h
  obtain ⟨s, hs, -⟩ := Option.bind_eq_some_iff.mp hcontent
  exact ⟨s, hs⟩

/-! ## Moving files -/

/-- Both changes are granted and the file moves, or one is refused and no file does. -/
theorem moveFile_runs {r : Except PlatformFault Unit} (hname : Path.IsName name)
    (h : Runs answer (moveFile source target name) x ts r x') :
    (r = .ok () ∧ refusals ts = [] ∧
      ∃ x₁ s t, v.Keeps x x₁ ∧ v.Extends x₁ x' ∧ v.dir? x₁ source = some s ∧
        v.dir? x₁ target = some t ∧ v.files x' = (v.files x₁).moved [name] s t) ∨
    ∃ f, r = .error (moveFault (source.join ⟨name⟩) (target.join ⟨name⟩) f) ∧
      refusals ts = [f] ∧ v.Keeps x x' := by
  obtain ⟨ts₁, rfl, hmade⟩ := runs_question.mp h
  have hdirs := hv.makeDirs_keeps target x
  generalize (answer (.makeDirs target) x).2 = x₁ at hmade hdirs
  generalize (answer (.makeDirs target) x).1 = made at hmade ⊢
  cases made with
  | error f =>
    obtain ⟨rfl, rfl, rfl⟩ := runs_pure.mp hmade
    exact .inr ⟨f, rfl, rfl, hdirs⟩
  | ok =>
    obtain ⟨ts₂, rfl, hrenamed⟩ := runs_question.mp hmade
    have hok := hv.rename_ok hname (s := source) (d := target) (x := x₁)
    have herror := fun f => hv.rename_error hname (s := source) (d := target) (x := x₁) (f := f)
    generalize (answer (.rename (source.join ⟨name⟩) (target.join ⟨name⟩)) x₁).2 = x₂
      at hrenamed hok herror
    generalize (answer (.rename (source.join ⟨name⟩) (target.join ⟨name⟩)) x₁).1 = renamed
      at hrenamed hok herror ⊢
    cases renamed with
    | error f =>
      obtain ⟨rfl, rfl, rfl⟩ := runs_pure.mp hrenamed
      exact .inr ⟨f, rfl, rfl, hdirs.trans (herror f rfl)⟩
    | ok =>
      obtain ⟨rfl, rfl, rfl⟩ := runs_pure.mp hrenamed
      obtain ⟨hextends, s, t, hs, ht, hfiles⟩ := hok rfl
      exact .inl ⟨rfl, rfl, x₁, s, t, hdirs, hextends, hs, ht, hfiles⟩

/-- How a move of files ends that are all there: all have gone, or one of them was refused and those
in front of it have gone. -/
inductive Ended (v : FileView σ Dir) (source target : Path) (s : Dir) (x : σ)
    (there : List String) : List IoFailure → Except PlatformFault Unit → σ → Prop
  | all {t : Dir} {x' : σ} (h : Gone v target s t there x x') :
    Ended v source target s x there [] (.ok ()) x'
  | refused {t : Dir} {x' : σ} {gone left : List String} {name : String} (f : IoFailure)
    (hthere : there = gone ++ name :: left) (h : Gone v target s t gone x x') :
    Ended v source target s x there [f]
      (.error (moveFault (source.join ⟨name⟩) (target.join ⟨name⟩) f)) x'

/-- By induction on the files still to be looked at, with those that have gone before them. -/
theorem moveCompanions_runs {r : Except PlatformFault Unit} (hs : v.dir? x source = some s)
    (hnames : ∀ n ∈ names, Path.IsName n) (hnodup : (gone ++ names).Nodup)
    (hgone : Gone v target s t gone x x')
    (h : Runs answer (moveCompanions source target names) x' ts r x'') :
    Ended v source target s x (gone ++ names.filter (isStaged answer x source)) (refusals ts) r
      x'' := by
  induction names generalizing gone x' ts t with
  | nil =>
    obtain ⟨rfl, rfl, rfl⟩ := runs_pure.mp h
    rw [List.filter_nil, List.append_nil]
    exact .all hgone
  | cons name names ih =>
    obtain ⟨hname, hnames⟩ := List.forall_mem_cons.mp hnames
    have hfresh : name ∉ gone := fun hmem =>
      List.disjoint_of_nodup_append hnodup hmem List.mem_cons_self
    obtain ⟨ts₁, rfl, hlook⟩ := runs_question.mp h
    have hlooked : Gone v target s t gone x (answer (.isFile (source.join ⟨name⟩)) x').2 :=
      hgone.keeps (hv.isFile_keeps _ _)
    have hthere : (answer (.isFile (source.join ⟨name⟩)) x').1 = isStaged answer x source name :=
      hgone.isStaged_eq hv hs hname hfresh
    rw [hthere] at hlook ⊢
    -- Looking for a file cannot be refused.
    have hskip : refusals (⟨.isFile (source.join ⟨name⟩), isStaged answer x source name⟩ :: ts₁) =
        refusals ts₁ := rfl
    rw [hskip]
    by_cases hstaged : isStaged answer x source name = true
    · rw [if_pos hstaged] at hlook
      rw [List.filter_cons_of_pos hstaged]
      obtain ⟨ts₂, moved, x₁, ts₃, rfl, hfile, hnext⟩ := runs_bind.mp hlook
      rw [refusals_append]
      rcases moveFile_runs hv hname hfile with
        ⟨rfl, hgranted, x₂, s', t', hdirs, hextends, hs', ht', hfiles⟩ | ⟨f, rfl, hrefused, hkeeps⟩
      · have hgone' : Gone v target s t' (gone ++ [name]) x x₁ :=
          (hlooked.keeps hdirs).concat hfresh hs hs' ht' hextends hfiles
        have hrest := ih hnames (by simpa using hnodup) hgone' hnext
        rw [List.append_assoc] at hrest
        rw [hgranted]
        exact hrest
      · obtain ⟨rfl, rfl, rfl⟩ := runs_pure.mp hnext
        rw [hrefused]
        exact .refused f rfl (hlooked.keeps hkeeps)
    · rw [if_neg hstaged] at hlook
      rw [List.filter_cons_of_neg hstaged]
      have hnodup' : (gone ++ names).Nodup :=
        hnodup.sublist (List.Sublist.append_left (List.sublist_cons_self name names) gone)
      exact ih hnames hnodup' hlooked hlook

/-- A set whose first file is not there is left alone. -/
theorem moveSet_runs_of_not {first : String} {companions : List String}
    {r : Except PlatformFault MoveOutcome} (hfirst : isStaged answer x source first = false)
    (h : Runs answer (moveSet source target first companions) x ts r x') :
    r = .ok .notStaged ∧ refusals ts = [] ∧ v.Keeps x x' := by
  have hreply : (answer (.isFile (source.join ⟨first⟩)) x).1 = false := hfirst
  obtain ⟨ts₁, rfl, hlook⟩ := runs_question.mp h
  rw [hreply, if_neg Bool.false_ne_true] at hlook
  obtain ⟨rfl, rfl, rfl⟩ := runs_pure.mp hlook
  exact ⟨rfl, rfl, hv.isFile_keeps _ _⟩

theorem isSome_of_mem_staged (hs : v.dir? x source = some s) (hset : IsSet (setNames codePath))
    (hname : name ∈ staged answer x source codePath) : (v.files x s name).isSome := by
  obtain ⟨hmem, hstaged⟩ := List.mem_filter.mp hname
  rw [isStaged_eq hv (hset.isName name hmem) hs, Bool.and_eq_true] at hstaged
  exact hstaged.2

/-- What is staged behind a move, and what is not. -/
theorem Gone.staged_eq (h : Gone v target s t gone x x') (hs : v.dir? x source = some s)
    (hset : IsSet (setNames codePath)) :
    staged answer x' source codePath =
      (staged answer x source codePath).filter fun n => decide (n ∈ gone → s = t) := by
  rw [staged, staged, List.filter_filter]
  refine List.filter_congr fun n hn => ?_
  rw [Bool.eq_iff_iff, Bool.and_eq_true, decide_eq_true_iff, and_comm]
  exact h.isStaged_iff hv hs (hset.isName n hn)

/-- The set is staged behind a move exactly if no file has gone elsewhere: the first to go is the
one that decides. -/
theorem Gone.isSetStaged_iff {left : List String} (h : Gone v target s t gone x x')
    (hs : v.dir? x source = some s) (hset : IsSet (setNames codePath))
    (hstaged : isSetStaged answer x source codePath = true)
    (hgone : staged answer x source codePath = gone ++ left) :
    isSetStaged answer x' source codePath = true ↔ gone = [] ∨ s = t := by
  obtain ⟨odex, hodex, hstaged⟩ := isSetStaged_eq_true_iff.mp hstaged
  obtain ⟨others, hothers⟩ := staged_eq_cons hodex hstaged
  have hname : Path.IsName odex :=
    hset.isName odex (List.mem_filterMap.mpr ⟨"odex", List.mem_cons_self, hodex⟩)
  have hfirst : odex ∈ gone ↔ gone ≠ [] := by
    constructor
    · rintro hmem rfl
      cases hmem
    · intro hne
      obtain ⟨first, rest, rfl⟩ := List.exists_cons_of_ne_nil hne
      rw [hgone, List.cons_append] at hothers
      rw [(List.cons.inj hothers).1]
      exact List.mem_cons_self
  rw [isSetStaged, hodex, Option.any_some, h.isStaged_iff hv hs hname, and_iff_right hstaged,
    hfirst, or_iff_not_imp_left]

/-- No file has changed exactly if those that have gone have gone nowhere. -/
theorem Gone.files_eq_iff {left : List String} (h : Gone v target s t gone x x')
    (hs : v.dir? x source = some s) (hset : IsSet (setNames codePath))
    (hgone : staged answer x source codePath = gone ++ left) :
    v.files x' = v.files x ↔ gone = [] ∨ s = t := by
  rw [h.files]
  refine Files.moved_eq_self_iff fun n hn => ?_
  have hmem : n ∈ staged answer x source codePath := hgone ▸ List.mem_append_left left hn
  exact isSome_of_mem_staged hv hs hset hmem

theorem Gone.staged_eq_self (h : Gone v target s t gone x x') (hs : v.dir? x source = some s)
    (hset : IsSet (setNames codePath)) (hnowhere : gone = [] ∨ s = t) :
    staged answer x' source codePath = staged answer x source codePath := by
  rw [h.staged_eq hv hs hset]
  refine List.filter_eq_self.mpr fun n _ => decide_eq_true fun hn => ?_
  rcases hnowhere with rfl | hself
  · cases hn
  · exact hself

/-- Of those that were staged, the others are left. -/
theorem Gone.staged_eq_left {left : List String} (h : Gone v target s t gone x x')
    (hs : v.dir? x source = some s) (hset : IsSet (setNames codePath))
    (hgone : staged answer x source codePath = gone ++ left) (hne : s ≠ t) :
    staged answer x' source codePath = left := by
  have hnodup : (gone ++ left).Nodup := hgone ▸ hset.nodup.filter _
  have hnone : gone.filter (fun n => decide (n ∈ gone → s = t)) = [] :=
    List.filter_eq_nil_iff.mpr fun n hn => by simpa [hn] using hne
  have hall : left.filter (fun n => decide (n ∈ gone → s = t)) = left :=
    List.filter_eq_self.mpr fun n hn => decide_eq_true fun hmem =>
      absurd hn (List.disjoint_of_nodup_append hnodup hmem)
  rw [h.staged_eq hv hs hset, hgone, List.filter_append, hnone, hall, List.nil_append]

/-! ## Moving a set -/

/-- The set is not staged, or its staged files are moved one after the other. -/
theorem moveArtifacts_runs {r : Except PlatformFault MoveOutcome}
    (hset : isSetStaged answer x (sourceFor staging dir isa) codePath = true →
      IsSet (setNames codePath))
    (h : Runs answer (moveArtifacts staging codePath isa dir) x ts r x') :
    (isSetStaged answer x (sourceFor staging dir isa) codePath = false ∧ r = .ok .notStaged ∧
      refusals ts = [] ∧ v.Keeps x x') ∨
    ∃ s r', isSetStaged answer x (sourceFor staging dir isa) codePath = true ∧
      v.dir? x (sourceFor staging dir isa) = some s ∧ r = r'.map (fun _ => .moved) ∧
      Ended v (sourceFor staging dir isa) (targetFor dir isa) s x
        (staged answer x (sourceFor staging dir isa) codePath) (refusals ts) r' x' := by
  cases hodex : artifactFileName codePath "odex" with
  | none =>
    rw [moveArtifacts_of_no_odex hodex] at h
    obtain ⟨rfl, rfl, rfl⟩ := runs_pure.mp h
    refine .inl ⟨?_, rfl, rfl, .refl _⟩
    rw [isSetStaged, hodex, Option.any_none]
  | some odex =>
    obtain ⟨companions, hnames, hmove⟩ := moveArtifacts_of_odex hodex
    rw [hmove] at h
    rw [isSetStaged, hodex, Option.any_some] at hset ⊢
    by_cases hstaged : isStaged answer x (sourceFor staging dir isa) odex = true
    · have hset := hset hstaged
      have hname : Path.IsName odex := hset.isName _ (hnames ▸ List.mem_cons_self)
      obtain ⟨s, hs⟩ := exists_dir_of_isStaged hv hname hstaged
      obtain ⟨r', rfl, hmoves⟩ := moveSet_runs hstaged h
      rw [← hnames] at hmoves
      have hnone : Gone v (targetFor dir isa) s s [] x x := .nil x
      have hnodup : ([] ++ setNames codePath).Nodup := hset.nodup
      exact .inr ⟨s, r', hstaged, hs, rfl,
        moveCompanions_runs hv hs hset.isName hnodup hnone hmoves⟩
    · obtain ⟨rfl, hgranted, hkeeps⟩ := moveSet_runs_of_not hv (Bool.eq_false_iff.mpr hstaged) h
      exact .inl ⟨Bool.eq_false_iff.mpr hstaged, rfl, hgranted, hkeeps⟩

theorem moveArtifacts_notStaged {r : Except PlatformFault MoveOutcome}
    (hset : isSetStaged answer x (sourceFor staging dir isa) codePath = true →
      IsSet (setNames codePath))
    (h : Runs answer (moveArtifacts staging codePath isa dir) x ts r x') :
    (r = .ok .notStaged ↔ isSetStaged answer x (sourceFor staging dir isa) codePath = false) ∧
      (r = .ok .notStaged → v.Keeps x x') := by
  rcases moveArtifacts_runs hv hset h with
    ⟨hunstaged, rfl, -, hkeeps⟩ | ⟨s, r', hstaged, -, rfl, -⟩
  · exact ⟨iff_of_true rfl hunstaged, fun _ => hkeeps⟩
  · rw [hstaged]
    cases r' <;> exact ⟨iff_of_false nofun nofun, nofun⟩

/-- **Moves of sets.**  A move says that nothing was staged exactly if the code path ends in no name
or the first file of its set is not there; then no file changes, whichever others are there.  It
says that files were moved exactly if the first one is there and every change is granted; then all
files of the set that are there are at the target, in place of those that had their names, and no
other file has changed. -/
theorem move_outcome (codePath : Path)
    (hdots : ∀ n, Path.IsDots n → isStaged answer x (sourceFor staging dir isa) n = false) :
    let source := sourceFor staging dir isa
    let job := moveArtifacts staging codePath isa dir
    let r := (Dialogue.run answer job x).1
    let x' := (Dialogue.run answer job x).2
    (r = .ok .notStaged ↔
      codePath.fileStem = none ∨
        ∃ odex, artifactFileName codePath "odex" = some odex ∧
          isStaged answer x source odex = false) ∧
    (r = .ok .notStaged → v.Keeps x x') ∧
    (r = .ok .moved ↔
      (∃ odex, artifactFileName codePath "odex" = some odex ∧
        isStaged answer x source odex = true) ∧
      refusals (Dialogue.transcript answer job x) = []) ∧
    (r = .ok .moved →
      v.Extends x x' ∧ ∃ s t, v.dir? x source = some s ∧ v.dir? x' (targetFor dir isa) = some t ∧
        v.files x' = (v.files x).moved (staged answer x source codePath) s t) := by
  intro source job r x'
  rw [← isSetStaged_eq_false_iff, ← isSetStaged_eq_true_iff]
  have hset : isSetStaged answer x source codePath = true → IsSet (setNames codePath) :=
    isSet_of_isSetStaged hdots
  have hruns : Runs answer job x (Dialogue.transcript answer job x) r x' := ⟨rfl, rfl⟩
  obtain ⟨hunstaged, hkeeps⟩ := moveArtifacts_notStaged hv hset hruns
  refine ⟨hunstaged, hkeeps, ?_⟩
  generalize Dialogue.transcript answer job x = ts at hruns ⊢
  rcases moveArtifacts_runs hv hset hruns with
    ⟨hfalse, hr, -, -⟩ | ⟨s, r', hstaged, hs, hr, hended⟩
  · rw [hfalse, hr]
    exact ⟨iff_of_false nofun nofun, nofun⟩
  · generalize hrefused : refusals ts = refused at hended
    generalize hthere : staged answer x source codePath = there at hended
    rw [hstaged, hr]
    cases hended with
    | @all t _ hgone =>
      -- The first file has gone at least, so the target leads somewhere.
      obtain ⟨odex, hodex, hstaged⟩ := isSetStaged_eq_true_iff.mp hstaged
      obtain ⟨others, hothers⟩ := staged_eq_cons hodex hstaged
      have hne : there ≠ [] := by
        rw [← hthere, hothers]
        exact List.cons_ne_nil _ _
      exact ⟨iff_of_true rfl ⟨rfl, rfl⟩, fun _ =>
        ⟨hgone.dirs, s, t, hs, hgone.target.resolve_left hne, hgone.files⟩⟩
    | refused f _ _ => exact ⟨iff_of_false nofun nofun, nofun⟩

omit hv

/-- The directories of an application and of what is staged for it. -/
def appDirs : List (Place × Entry) :=
  [(["ota"], .dir), (["ota", "app"], .dir), (["ota", "app", "foo"], .dir),
    (["ota", "app", "foo", "oat"], .dir), (["ota", "app", "foo", "oat", "arm64"], .dir),
    (["app"], .dir), (["app", "foo"], .dir), (["app", "foo", "oat"], .dir),
    (["app", "foo", "oat", "arm64"], .dir)]

/-- An artifact that is staged takes the place of an old one, and its companion comes with it. -/
def replacing : Scripted where
  tree := ⟨appDirs ++
    [(["ota", "app", "foo", "oat", "arm64", "base.odex"], .file [1]),
      (["ota", "app", "foo", "oat", "arm64", "base.art"], .file [2]),
      (["app", "foo", "oat", "arm64", "base.odex"], .file [3]),
      (["app", "foo", "oat", "arm64", "base.vdex"], .file [4])]⟩
  here := []
  volume := default

theorem move_outcome_replacing :
    (∀ n, Path.IsDots n →
      isStaged Scripted.answer replacing (sourceFor ⟨"ota"⟩ ⟨"app/foo/oat"⟩ .arm64) n = false) ∧
    staged Scripted.answer replacing (sourceFor ⟨"ota"⟩ ⟨"app/foo/oat"⟩ .arm64) ⟨"base.apk"⟩ =
      ["base.odex", "base.art"] ∧
    (Dialogue.run Scripted.answer (moveArtifacts ⟨"ota"⟩ ⟨"base.apk"⟩ .arm64 ⟨"app/foo/oat"⟩)
      replacing).1 = .ok .moved := by
  have hdots : ∀ n, Path.IsDots n →
      isStaged Scripted.answer replacing (sourceFor ⟨"ota"⟩ ⟨"app/foo/oat"⟩ .arm64) n = false := by
    rintro n (rfl | rfl) <;> decide +kernel
  obtain ⟨-, -, hmoved, -⟩ := move_outcome Scripted.faithful ⟨"base.apk"⟩ hdots
  exact ⟨hdots, by decide +kernel,
    hmoved.mpr ⟨⟨"base.odex", by decide +kernel, by decide +kernel⟩, by decide +kernel⟩⟩

include hv

/-- **Moves that fail.**  The change that was refused was for a file of the set that was there, and
the files in front of it have gone to the target.  If there are none of them, or the target is where
they were staged, no file has changed and a later move finds all that is staged.  If there are, they
are not where they were; a later move says that nothing is staged and changes no file, while the
file that was refused and those behind it are still there. -/
theorem failed_move_leaves {codePath : Path} {fault : PlatformFault}
    (hdots : ∀ n, Path.IsDots n → isStaged answer x (sourceFor staging dir isa) n = false)
    (h : (Dialogue.run answer (moveArtifacts staging codePath isa dir) x).1 = .error fault) :
    let source := sourceFor staging dir isa
    let target := targetFor dir isa
    let job := moveArtifacts staging codePath isa dir
    let x' := (Dialogue.run answer job x).2
    let later := Dialogue.run answer job x'
    ∃ gone name left s t f,
      staged answer x source codePath = gone ++ name :: left ∧
      refusals (Dialogue.transcript answer job x) = [f] ∧
      fault = moveFault (source.join ⟨name⟩) (target.join ⟨name⟩) f ∧
      v.dir? x source = some s ∧ (gone = [] ∨ v.dir? x' target = some t) ∧
      v.files x' = (v.files x).moved gone s t ∧
      (gone = [] ∨ s = t →
        v.files x' = v.files x ∧
        staged answer x' source codePath = staged answer x source codePath ∧
        later.1 ≠ .ok .notStaged) ∧
      (¬ (gone = [] ∨ s = t) →
        v.files x' ≠ v.files x ∧ staged answer x' source codePath = name :: left ∧
        later.1 = .ok .notStaged ∧ v.Keeps x' later.2) := by
  intro source target job x' later
  have hruns : Runs answer job x (Dialogue.transcript answer job x) (.error fault) x' :=
    ⟨rfl, Prod.ext h rfl⟩
  have hlater : Runs answer job x' (Dialogue.transcript answer job x') later.1 later.2 := ⟨rfl, rfl⟩
  generalize Dialogue.transcript answer job x = ts at hruns ⊢
  rcases moveArtifacts_runs hv (isSet_of_isSetStaged hdots) hruns with
    ⟨-, hr, -, -⟩ | ⟨s, r', hstaged, hs, hr, hended⟩
  · cases hr
  · have hset : IsSet (setNames codePath) := isSet_of_isSetStaged hdots hstaged
    generalize hrefused : refusals ts = refused at hended
    generalize hthere : staged answer x source codePath = there at hended
    cases hended with
    | all _ => cases hr
    | @refused t _ gone left name f hsplit hgone =>
      obtain rfl := Except.error.inj hr
      have hgone' : staged answer x source codePath = gone ++ name :: left := hthere.trans hsplit
      have hbehind := hgone.isSetStaged_iff hv hs hset hstaged hgone'
      have hfiles := hgone.files_eq_iff hv hs hset hgone'
      obtain ⟨hunstaged, hkeeps⟩ := moveArtifacts_notStaged hv (fun _ => hset) hlater
      rw [← hthere]
      refine ⟨gone, name, left, s, t, f, hgone', rfl, rfl, hs, hgone.target, hgone.files, ?_, ?_⟩
      · intro hnowhere
        refine ⟨hfiles.mpr hnowhere, hgone.staged_eq_self hv hs hset hnowhere, fun hlater => ?_⟩
        rw [hunstaged, hbehind.mpr hnowhere] at hlater
        cases hlater
      · intro hsome
        have hlater : later.1 = .ok .notStaged :=
          hunstaged.mpr (Bool.eq_false_iff.mpr (mt hbehind.mp hsome))
        have hne : s ≠ t := (not_or.mp hsome).2
        have hleft : staged answer x' source codePath = name :: left :=
          hgone.staged_eq_left hv hs hset hgone' hne
        exact ⟨mt hfiles.mp hsome, hleft, hlater, hkeeps hlater⟩

omit hv

/-- There is a directory where a companion belongs. -/
def blocking : Scripted where
  tree := ⟨appDirs ++
    [(["ota", "app", "foo", "oat", "arm64", "base.odex"], .file [120]),
      (["ota", "app", "foo", "oat", "arm64", "base.vdex"], .file [120]),
      (["ota", "app", "foo", "oat", "arm64", "base.art"], .file [120]),
      (["app", "foo", "oat", "arm64", "base.vdex"], .dir)]⟩
  here := []
  volume := default

/-- What the directory is in the way of. -/
def blockedFault : PlatformFault :=
  moveFault ⟨"ota/app/foo/oat/arm64/base.vdex"⟩ ⟨"app/foo/oat/arm64/base.vdex"⟩
    OsError.isADirectory.failure

theorem failed_move_leaves_blocking :
    (∀ n, Path.IsDots n →
      isStaged Scripted.answer blocking (sourceFor ⟨"ota"⟩ ⟨"app/foo/oat"⟩ .arm64) n = false) ∧
    (Dialogue.run Scripted.answer (moveArtifacts ⟨"ota"⟩ ⟨"base.apk"⟩ .arm64 ⟨"app/foo/oat"⟩)
      blocking).1 = .error blockedFault ∧
    ∃ gone name left,
      staged Scripted.answer blocking (sourceFor ⟨"ota"⟩ ⟨"app/foo/oat"⟩ .arm64) ⟨"base.apk"⟩ =
        gone ++ name :: left := by
  have hdots : ∀ n, Path.IsDots n →
      isStaged Scripted.answer blocking (sourceFor ⟨"ota"⟩ ⟨"app/foo/oat"⟩ .arm64) n = false := by
    rintro n (rfl | rfl) <;> decide +kernel
  have hfailed :
      (Dialogue.run Scripted.answer (moveArtifacts ⟨"ota"⟩ ⟨"base.apk"⟩ .arm64 ⟨"app/foo/oat"⟩)
        blocking).1 = .error blockedFault := by
    decide +kernel
  obtain ⟨gone, name, left, s, t, f, hsplit, -⟩ :=
    failed_move_leaves Scripted.faithful hdots hfailed
  exact ⟨hdots, hfailed, gone, name, left, hsplit⟩

/-- The artifact itself has gone, so its companions are never moved after it. -/
theorem failed_move_strands_companions :
    let source := sourceFor ⟨"ota"⟩ ⟨"app/foo/oat"⟩ .arm64
    let job := moveArtifacts ⟨"ota"⟩ ⟨"base.apk"⟩ .arm64 ⟨"app/foo/oat"⟩
    let x' := (Dialogue.run Scripted.answer job blocking).2
    (Dialogue.run Scripted.answer job blocking).1 = .error blockedFault ∧
      isStaged Scripted.answer blocking source "base.odex" = true ∧
      isStaged Scripted.answer x' source "base.odex" = false ∧
      (Dialogue.run Scripted.answer job x').1 = .ok .notStaged ∧
      staged Scripted.answer (Dialogue.run Scripted.answer job x').2 source ⟨"base.apk"⟩ =
        ["base.vdex", "base.art"] := by
  decide +kernel

end Moves

end Host

end OtaCompile
