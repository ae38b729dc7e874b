import OtaCompile.Host.Scripted
import OtaCompile.Proofs.FileTree

/-!
# Views of a host's files

What a mover of files relies on, whatever host it runs on.  A view says what the regular files of a
host hold and which directory a path leads to.  A host is faithful to a view if its replies on names
in directories are about these files: making directories touches no file, and giving a file another
directory moves that file or nothing (`FileView.Faithful`).  Scripted hosts are faithful to the view
of their trees (`Scripted.faithful`).
-/

namespace OtaCompile.Host

/-- What regular files hold, by their directory and their name in it. -/
abbrev Files (Dir : Type) := Dir → String → Option (List UInt8)

namespace Files

variable {Dir : Type} [DecidableEq Dir] {m : Files Dir} {names : List String} {name : String}
  {source target : Dir}

/-- Files of these names have left one directory for another, where each is in place of any file
that had its name. -/
def moved (m : Files Dir) (names : List String) (source target : Dir) : Files Dir := fun dir name =>
  if name ∈ names then
    if dir = target then m source name else if dir = source then none else m dir name
  else m dir name

@[simp] theorem moved_nil : m.moved [] source target = m := by
  funext dir name
  exact if_neg List.not_mem_nil

/-- A directory that is left for itself is not left. -/
@[simp] theorem moved_self : m.moved names source source = m := by
  funext dir name
  rw [moved]
  split
  · split
    · next hdir => rw [hdir]
    · rfl
  · rfl

theorem moved_of_not_mem (h : name ∉ names) (dir : Dir) :
    m.moved names source target dir name = m dir name :=
  if_neg h

theorem moved_source (h : name ∈ names) (hne : source ≠ target) :
    m.moved names source target source name = none := by
  rw [moved, if_pos h, if_neg hne, if_pos rfl]

theorem moved_concat (h : name ∉ names) :
    (m.moved names source target).moved [name] source target =
      m.moved (names ++ [name]) source target := by
  funext dir n
  by_cases hn : n = name
  · subst hn
    simp only [moved, List.mem_singleton, List.mem_append, or_true, if_true, if_neg h]
  · have hmem : n ∈ names ++ [name] ↔ n ∈ names := by simp [hn]
    rw [moved_of_not_mem (by simpa using hn)]
    simp only [moved, hmem]

/-- Files that are there do not leave a directory for another unseen. -/
theorem moved_eq_self_iff (h : ∀ n ∈ names, (m source n).isSome) :
    m.moved names source target = m ↔ names = [] ∨ source = target := by
  constructor
  · intro heq
    by_contra hmoved
    obtain ⟨hnames, hne⟩ := not_or.mp hmoved
    obtain ⟨n, hn⟩ := List.exists_mem_of_ne_nil names hnames
    have hgone : m source n = none := by rw [← heq, moved_source hn hne]
    have hthere := h n hn
    rw [hgone] at hthere
    cases hthere
  · rintro (rfl | rfl)
    · exact moved_nil
    · exact moved_self

end Files

/-- What a state of a host says of files. -/
structure FileView (σ Dir : Type) where
  files : σ → Files Dir
  /-- The directory that a path leads to. -/
  dir? : σ → Path → Option Dir
  /-- Whether a path is not refused for its spelling. -/
  accepts : Path → Bool

namespace FileView

variable {σ Dir : Type} (v : FileView σ Dir) {x x' x'' : σ} {p : Path} {dir : Dir}

/-- No path to a directory leads elsewhere. -/
def Extends (x x' : σ) : Prop := ∀ p dir, v.dir? x p = some dir → v.dir? x' p = some dir

/-- Not even a file changed. -/
structure Keeps (x x' : σ) : Prop where
  dirs : v.Extends x x'
  files : v.files x' = v.files x

variable {v}

theorem Extends.trans (h : v.Extends x x') (h' : v.Extends x' x'') : v.Extends x x'' :=
  fun p dir hdir => h' p dir (h p dir hdir)

theorem Keeps.refl (x : σ) : v.Keeps x x := ⟨fun _ _ hdir => hdir, rfl⟩

theorem Keeps.trans (h : v.Keeps x x') (h' : v.Keeps x' x'') : v.Keeps x x'' :=
  ⟨h.dirs.trans h'.dirs, h'.files.trans h.files⟩

/-- The replies on files are about those of the view. -/
structure Faithful [DecidableEq Dir] (v : FileView σ Dir)
    (answer : (q : Request) → σ → Reply q × σ) : Prop where
  isFile_reply {name : String} (hname : Path.IsName name) (d : Path) (x : σ) :
    (answer (.isFile (d.join ⟨name⟩)) x).1 =
      (v.accepts (d.join ⟨name⟩) && ((v.dir? x d).bind (v.files x · name)).isSome)
  isFile_keeps (p : Path) (x : σ) : v.Keeps x (answer (.isFile p) x).2
  /-- Directories are made, but no file is touched, even if not all of them could be made. -/
  makeDirs_keeps (p : Path) (x : σ) : v.Keeps x (answer (.makeDirs p) x).2
  rename_error {name : String} (hname : Path.IsName name) {s d : Path} {x : σ} {f : IoFailure}
    (h : (answer (.rename (s.join ⟨name⟩) (d.join ⟨name⟩)) x).1 = .error f) :
    v.Keeps x (answer (.rename (s.join ⟨name⟩) (d.join ⟨name⟩)) x).2
  rename_ok {name : String} (hname : Path.IsName name) {s d : Path} {x : σ}
    (h : (answer (.rename (s.join ⟨name⟩) (d.join ⟨name⟩)) x).1 = .ok ()) :
    v.Extends x (answer (.rename (s.join ⟨name⟩) (d.join ⟨name⟩)) x).2 ∧
      ∃ source target, v.dir? x s = some source ∧ v.dir? x d = some target ∧
        v.files (answer (.rename (s.join ⟨name⟩) (d.join ⟨name⟩)) x).2 =
          (v.files x).moved [name] source target

end FileView

/-! ## Scripted hosts -/

namespace Scripted

/-- Paths are followed in the tree, from the working directory on. -/
def view : FileView Scripted Place where
  files h := h.tree.contentAt
  dir? h := h.tree.dirAt? h.here
  accepts p := !hasNul p.text && decide (p.text.utf8ByteSize ≤ FileTree.maxPathBytes)

theorem keeps_of_grows {h : Scripted} {t : FileTree} (hgrows : FileTree.Grows h.tree t) :
    view.Keeps h { h with tree := t } :=
  ⟨fun _ _ hdir => hgrows.dirAt? hdir, hgrows.contentAt_eq⟩

theorem makeDirs_keeps (h : Scripted) (p : Path) : view.Keeps h (h.makeDirs p).2 := by
  unfold makeDirs
  split
  · exact .refl h
  · exact keeps_of_grows (FileTree.grows_makeDirs h.tree h.here p)

theorem rename_eq (h : Scripted) (s d : Path) :
    (∃ f, h.rename s d = (.error f, h)) ∨
      ∃ t, h.tree.rename h.here s d = .ok t ∧ h.rename s d = (.ok (), { h with tree := t }) := by
  unfold rename
  split
  · exact .inl ⟨_, rfl⟩
  · split
    · next t ht => exact .inr ⟨t, ht, rfl⟩
    · exact .inl ⟨_, rfl⟩

theorem faithful : view.Faithful answer where
  isFile_reply hname d h := by
    show (!hasNul _ && h.tree.isFile h.here _) = _
    rw [FileTree.isFile_join hname, ← Bool.and_assoc]
    rfl
  isFile_keeps p h := .refl h
  makeDirs_keeps p h := h.makeDirs_keeps p
  rename_error {name} _ {s d h f} hreply := by
    have hreply : (h.rename (s.join ⟨name⟩) (d.join ⟨name⟩)).1 = .error f := hreply
    show view.Keeps h (h.rename (s.join ⟨name⟩) (d.join ⟨name⟩)).2
    rcases h.rename_eq (s.join ⟨name⟩) (d.join ⟨name⟩) with ⟨_, heq⟩ | ⟨t, -, heq⟩
    · rw [heq]
      exact .refl h
    · rw [heq] at hreply
      cases hreply
  rename_ok {name} hname {s d h} hreply := by
    have hreply : (h.rename (s.join ⟨name⟩) (d.join ⟨name⟩)).1 = .ok () := hreply
    show view.Extends h (h.rename (s.join ⟨name⟩) (d.join ⟨name⟩)).2 ∧ _
    rcases h.rename_eq (s.join ⟨name⟩) (d.join ⟨name⟩) with ⟨_, heq⟩ | ⟨t, ht, heq⟩
    · rw [heq] at hreply
      cases hreply
    · obtain ⟨hdirs, source, target, hsource, htarget, hfiles⟩ := FileTree.rename_join hname ht
      refine ⟨?_, source, target, hsource, htarget, ?_⟩
      · rw [heq]
        exact fun p dir hdir => FileTree.dirAt?_mono hdirs hdir
      · have hmoved : t.contentAt = (view.files h).moved [name] source target := by
          funext dir n
          rw [hfiles, Files.moved]
          by_cases hn : n = name
          · subst hn
            rw [if_pos rfl, if_pos (List.mem_singleton_self n)]
            rfl
          · rw [if_neg hn, if_neg (by simpa using hn)]
            rfl
        show view.files (h.rename (s.join ⟨name⟩) (d.join ⟨name⟩)).2 = _
        rw [heq]
        exact hmoved

end Scripted

end OtaCompile.Host
