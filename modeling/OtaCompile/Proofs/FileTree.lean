import OtaCompile.FileTree
import OtaCompile.Proofs.ArtifactName
import OtaCompile.Proofs.Fallible

/-!
# Changes to file trees

A name in a directory is looked up where the directory's path leads to (`locate_join_eq_ok`,
`isFile_join`).  As long as every directory stays where it is, so does what a path to a directory
leads to (`walk_mono`).  Making directories changes no entry that is there and makes no file
(`Grows`, `grows_makeDirs`), and a file that gets another directory is the only one to change
(`rename_join`).
-/

namespace OtaCompile

/-! ## Paths to names -/

namespace Path

variable {d : Path} {name : String}

theorem IsName.ne_empty (h : IsName name) : name ≠ "" := by
  rintro rfl
  exact absurd h.notBlank (by decide)

theorem IsName.isAbsolute_eq (h : IsName name) : (Path.mk name).isAbsolute = false := by
  rw [isAbsolute, beq_eq_false_iff_ne]
  exact fun hslash => h.noSlash (List.mem_of_head? hslash)

/-- A relative path seen from a directory has its own pieces behind those of the directory, in place
of the last one if that is empty. -/
theorem pieces_join_of_relative {q : Path} (hq : q.isAbsolute = false) :
    ∃ ps, (d.join q).pieces = ps ++ q.pieces ∧ (d.pieces = ps ∨ d.pieces = ps ++ [""]) := by
  rw [join, hq, if_neg Bool.false_ne_true]
  by_cases hempty : d.text = ""
  · have hd : d.pieces = [""] := by rw [pieces, hempty]; rfl
    refine ⟨[], ?_, .inr hd⟩
    simp [hempty, pieces]
  · by_cases hslash : d.text.toList.getLast? = some '/'
    · obtain ⟨a, ha⟩ := List.getLast?_eq_some_iff.mp hslash
      have hd : d.pieces = Text.split '/' (String.ofList a) ++ [""] :=
        Text.split_append (v := "") (by simp [ha])
      have hjoined :
          Text.split '/' (d.text ++ q.text) = Text.split '/' (String.ofList a) ++ q.pieces :=
        Text.split_append (by simp [ha])
      refine ⟨_, ?_, .inr hd⟩
      simp [hslash, pieces, hjoined]
    · have hjoined : Text.split '/' (d.text ++ "/" ++ q.text) = d.pieces ++ q.pieces :=
        Text.split_append (by simp)
      refine ⟨_, ?_, .inl rfl⟩
      simp [hempty, hslash, pieces, hjoined]

theorem pieces_join (h : IsName name) :
    ∃ ps, (d.join ⟨name⟩).pieces = ps ++ [name] ∧ (d.pieces = ps ∨ d.pieces = ps ++ [""]) := by
  have hname : (Path.mk name).pieces = [name] := Text.split_of_not_mem h.noSlash
  rw [← hname]
  exact pieces_join_of_relative h.isAbsolute_eq

theorem isAbsolute_join (h : IsName name) : (d.join ⟨name⟩).isAbsolute = d.isAbsolute := by
  rw [join, h.isAbsolute_eq, if_neg Bool.false_ne_true]
  by_cases hempty : d.text = ""
  · have hd : d.isAbsolute = false := by simp [isAbsolute, hempty]
    rw [hd]
    simpa [hempty] using h.isAbsolute_eq
  · have hhead : ∀ s : String, (d.text ++ s).toList.head? = d.text.toList.head? := by
      intro s
      rw [String.toList_append, List.head?_append_of_ne_nil]
      simpa using hempty
    split
    · simp only [isAbsolute, hhead]
    · simp only [isAbsolute, String.append_assoc, hhead]

theorem text_join_ne_empty (h : IsName name) : (d.join ⟨name⟩).text ≠ "" := by
  rw [join, h.isAbsolute_eq, if_neg Bool.false_ne_true]
  split <;> simp [h.ne_empty]

end Path

namespace FileTree

variable {t t' : FileTree} {place q : Place} {e : Entry} {name piece : String} {ps : List String}

/-! ## Entries -/

theorem find_erase (hq : q ≠ []) :
    (t.erase place).find q = if q = place then none else t.find q := by
  have hroot : q.isEmpty = false := by simpa using hq
  rw [find, find, hroot, if_neg Bool.false_ne_true, if_neg Bool.false_ne_true, erase]
  generalize t.entries = entries
  induction entries with
  | nil => exact (ite_self _).symm
  | cons entry entries ih =>
    by_cases hentry : entry.1 = place
    · rw [List.filter_cons_of_neg (by simpa using hentry), ih, List.lookup_cons]
      by_cases hplace : q = place
      · rw [if_pos hplace, if_pos hplace]
      · have hne : (q == entry.1) = false := by simpa [hentry] using hplace
        rw [if_neg hplace, if_neg hplace, hne]
    · rw [List.filter_cons_of_pos (by simpa using hentry), List.lookup_cons, List.lookup_cons, ih]
      by_cases hq' : q = entry.1
      · have hplace : q ≠ place := by rwa [hq']
        simp [hq', hentry]
      · have hne : (q == entry.1) = false := by simpa using hq'
        rw [hne]

theorem find_put (hq : q ≠ []) :
    (t.put place e).find q = if q = place then some e else t.find q := by
  have herase : (t.erase place).find q = if q = place then none else t.find q := find_erase hq
  have hroot : q.isEmpty = false := by simpa using hq
  rw [find, hroot, if_neg Bool.false_ne_true] at herase ⊢
  rw [put, List.lookup_append, herase]
  by_cases hplace : q = place
  · simp [hplace]
  · have hne : (q == place) = false := by simpa using hplace
    simp [hplace, List.lookup_cons, hne]

/-! ## Walks -/

theorem asDir_eq_ok {dir : Place} :
    t.asDir place = .ok dir ↔ t.find place = some .dir ∧ dir = place := by
  unfold asDir
  split
  · next h => simp [h, eq_comm]
  · next h => simp [h]
  · next h => simp [h]

theorem walk_append (ps qs : List String) :
    t.walk place (ps ++ qs) = t.walk place ps >>= fun q => t.walk q qs := by
  induction ps generalizing place with
  | nil => rfl
  | cons piece ps ih =>
    simp only [List.cons_append, walk, ih, bind_assoc]

theorem walk_cons_eq_ok :
    t.walk place (piece :: ps) = .ok q ↔
      t.find place = some .dir ∧
        ∃ next, t.step place piece = .ok next ∧ t.walk next ps = .ok q := by
  rw [walk, bind_eq_ok]
  constructor
  · rintro ⟨dir, hdir, hstep⟩
    obtain ⟨hfind, rfl⟩ := asDir_eq_ok.mp hdir
    exact ⟨hfind, bind_eq_ok.mp hstep⟩
  · rintro ⟨hfind, hstep⟩
    exact ⟨place, asDir_eq_ok.mpr ⟨hfind, rfl⟩, bind_eq_ok.mpr hstep⟩

/-- What leads to a directory starts from one. -/
theorem find_of_walk (h : t.walk place ps = .ok q) (hq : t.find q = some .dir) :
    t.find place = some .dir := by
  cases ps with
  | nil =>
    obtain rfl := Except.ok.inj h
    exact hq
  | cons piece ps => exact (walk_cons_eq_ok.mp h).1

/-- A step leads to a directory in every tree that has it. -/
theorem step_of_find (h : t.step place piece = .ok q) (hq : t'.find q = some .dir) :
    t'.step place piece = .ok q := by
  unfold step at h ⊢
  split at h
  · next hblank => rwa [if_pos hblank]
  · next hblank =>
    rw [if_neg hblank]
    split at h
    · next hup => rwa [if_pos hup]
    · next hup =>
      rw [if_neg hup]
      split at h
      · cases h
      · next hshort =>
        rw [if_neg hshort]
        split at h
        · obtain rfl := Except.ok.inj h
          rw [hq]
        · cases h

/-- As long as directories stay, a path that leads to one leads there. -/
theorem walk_mono (hdirs : ∀ q, t.find q = some .dir → t'.find q = some .dir)
    (h : t.walk place ps = .ok q) (hq : t.find q = some .dir) : t'.walk place ps = .ok q := by
  induction ps generalizing place with
  | nil => exact h
  | cons piece ps ih =>
    obtain ⟨hplace, next, hstep, hwalk⟩ := walk_cons_eq_ok.mp h
    have hnext : t.find next = some .dir := find_of_walk hwalk hq
    exact walk_cons_eq_ok.mpr
      ⟨hdirs _ hplace, next, step_of_find hstep (hdirs _ hnext), ih hwalk⟩

/-! ## Directories and names in them -/

variable {here dir : Place} {d s : Path}

/-- Where a path is followed from. -/
def start (here : Place) (p : Path) : Place := if p.isAbsolute then [] else here

/-- The directory that a path leads to, if it leads to one. -/
def dirAt? (t : FileTree) (here : Place) (p : Path) : Option Place :=
  match t.walk (start here p) p.pieces with
  | .ok place => if t.find place = some .dir then some place else none
  | .error _ => none

theorem dirAt?_eq_some :
    t.dirAt? here d = some dir ↔
      t.walk (start here d) d.pieces = .ok dir ∧ t.find dir = some .dir := by
  unfold dirAt?
  split
  · next place h =>
    rw [h, Except.ok.injEq]
    split
    · next hplace =>
      rw [Option.some.injEq]
      exact ⟨fun heq => ⟨heq, heq ▸ hplace⟩, And.left⟩
    · next hplace => exact iff_of_false nofun fun ⟨heq, hdir⟩ => hplace (heq ▸ hdir)
  · next e h =>
    rw [h]
    exact iff_of_false nofun nofun

/-- What is there of a path to a directory, it leads to in every tree that keeps its directories. -/
theorem dirAt?_mono (hdirs : ∀ q, t.find q = some .dir → t'.find q = some .dir)
    (h : t.dirAt? here d = some dir) : t'.dirAt? here d = some dir := by
  obtain ⟨hwalk, hdir⟩ := dirAt?_eq_some.mp h
  exact dirAt?_eq_some.mpr ⟨walk_mono hdirs hwalk hdir, hdirs _ hdir⟩

/-- An empty last piece leads nowhere else. -/
theorem dirAt?_eq_some_of_pieces (hps : d.pieces = ps ∨ d.pieces = ps ++ [""]) :
    t.dirAt? here d = some dir ↔ t.walk (start here d) ps = .ok dir ∧ t.find dir = some .dir := by
  rw [dirAt?_eq_some]
  rcases hps with hps | hps
  · rw [hps]
  · rw [hps, walk_append, bind_eq_ok]
    constructor
    · rintro ⟨⟨place, hplace, hlast⟩, hdir⟩
      obtain ⟨-, next, hstep, hnext⟩ := walk_cons_eq_ok.mp hlast
      obtain rfl := Except.ok.inj hstep
      obtain rfl := Except.ok.inj hnext
      exact ⟨hplace, hdir⟩
    · rintro ⟨hplace, hdir⟩
      exact ⟨⟨dir, hplace, walk_cons_eq_ok.mpr ⟨hdir, dir, rfl, rfl⟩⟩, hdir⟩

theorem origin_eq_ok (h : d.text ≠ "") :
    origin here d = .ok q ↔ d.text.utf8ByteSize ≤ maxPathBytes ∧ q = start here d := by
  unfold origin
  rw [if_neg (by simpa using h)]
  by_cases hlong : d.text.utf8ByteSize > maxPathBytes
  · rw [if_pos hlong]
    exact iff_of_false nofun fun hshort => by omega
  · rw [if_neg hlong, Except.ok.injEq, eq_comm]
    exact ⟨fun hq => ⟨by omega, hq⟩, And.right⟩

/-- What a file of a directory holds; no name of one is too long. -/
def contentAt (t : FileTree) (dir : Place) (name : String) : Option (List UInt8) :=
  if name.utf8ByteSize ≤ maxNameBytes then
    match t.find (dir ++ [name]) with
    | some (.file content) => some content
    | _ => none
  else none

theorem contentAt_eq_some {content : List UInt8} :
    t.contentAt dir name = some content ↔
      name.utf8ByteSize ≤ maxNameBytes ∧ t.find (dir ++ [name]) = some (.file content) := by
  unfold contentAt
  by_cases hshort : name.utf8ByteSize ≤ maxNameBytes
  · rw [if_pos hshort]
    cases t.find (dir ++ [name]) with
    | none => simp
    | some e => cases e <;> simp [hshort]
  · rw [if_neg hshort]
    exact iff_of_false nofun fun h => hshort h.1

theorem isFile_eq_true {p : Path} :
    t.isFile here p = true ↔
      ∃ q content, t.locate here p = .ok q ∧ t.find q = some (.file content) := by
  rw [isFile, entryAt]
  constructor
  · intro h
    cases hq : t.locate here p with
    | error e => simp [hq, bind, Except.bind] at h
    | ok q =>
      simp only [hq, bind, Except.bind] at h
      cases he : t.find q with
      | none => simp [he] at h
      | some e =>
        cases e with
        | dir => simp [he] at h
        | file content => exact ⟨q, content, rfl, he⟩
  · rintro ⟨q, content, hq, he⟩
    simp [hq, he, bind, Except.bind]

section Name

variable (hname : Path.IsName name)
include hname

theorem step_eq_ok :
    t.step dir name = .ok q ↔
      name.utf8ByteSize ≤ maxNameBytes ∧ (t.find (dir ++ [name])).isSome ∧ q = dir ++ [name] := by
  unfold step
  rw [hname.notBlank, if_neg Bool.false_ne_true, if_neg (by simpa using hname.notUp)]
  by_cases hlong : name.utf8ByteSize > maxNameBytes
  · rw [if_pos hlong]
    exact iff_of_false nofun fun hshort => by omega
  · rw [if_neg hlong]
    cases t.find (dir ++ [name]) with
    | none => exact iff_of_false nofun fun ⟨_, hsome, _⟩ => by cases hsome
    | some e =>
      simp only [Except.ok.injEq]
      exact ⟨fun hq => ⟨by omega, rfl, hq.symm⟩, fun hq => hq.2.2.symm⟩

/-- What is at a name is looked up in the directory that the path in front of it leads to. -/
theorem locate_join_eq_ok :
    t.locate here (d.join ⟨name⟩) = .ok q ↔
      (d.join ⟨name⟩).text.utf8ByteSize ≤ maxPathBytes ∧ name.utf8ByteSize ≤ maxNameBytes ∧
        ∃ dir, t.dirAt? here d = some dir ∧ (t.find (dir ++ [name])).isSome ∧
          q = dir ++ [name] := by
  obtain ⟨ps, hjoined, hps⟩ := Path.pieces_join (d := d) hname
  have hstart : start here (d.join ⟨name⟩) = start here d := by
    rw [start, start, Path.isAbsolute_join hname]
  rw [locate, bind_eq_ok]
  simp only [origin_eq_ok (Path.text_join_ne_empty hname), hjoined, walk_append, bind_eq_ok, hstart,
    walk_cons_eq_ok, step_eq_ok hname, dirAt?_eq_some_of_pieces hps]
  constructor
  · rintro ⟨_, ⟨hlong, rfl⟩, dir, hwalk, hdir, next, ⟨hshort, hsome, rfl⟩, hlast⟩
    obtain rfl := Except.ok.inj hlast
    exact ⟨hlong, hshort, dir, ⟨hwalk, hdir⟩, hsome, rfl⟩
  · rintro ⟨hlong, hshort, dir, ⟨hwalk, hdir⟩, hsome, rfl⟩
    exact ⟨_, ⟨hlong, rfl⟩, dir, hwalk, hdir, _, ⟨hshort, hsome, rfl⟩, rfl⟩

/-- So is the place for a new entry. -/
theorem placeFor_join_eq_ok :
    t.placeFor here (d.join ⟨name⟩) = .ok q ↔
      (d.join ⟨name⟩).text.utf8ByteSize ≤ maxPathBytes ∧ name.utf8ByteSize ≤ maxNameBytes ∧
        ∃ dir, t.dirAt? here d = some dir ∧ q = dir ++ [name] := by
  obtain ⟨ps, hjoined, hps⟩ := Path.pieces_join (d := d) hname
  have hstart : start here (d.join ⟨name⟩) = start here d := by
    rw [start, start, Path.isAbsolute_join hname]
  have hpieces : ((ps ++ [name]).reverse.dropWhile (· == "")).reverse = ps ++ [name] := by
    simp [hname.ne_empty]
  have hdots : (name == "." || name == "..") = false := by
    have hhere : name ≠ "." := by
      rintro rfl
      exact absurd hname.notBlank (by decide)
    simp [hhere, hname.notUp]
  rw [placeFor, bind_eq_ok]
  simp only [origin_eq_ok (Path.text_join_ne_empty hname), hjoined, hpieces, hstart,
    List.getLast?_concat, List.dropLast_concat, bind_eq_ok, asDir_eq_ok, hdots,
    dirAt?_eq_some_of_pieces hps, Bool.false_eq_true, if_false]
  by_cases hlong : name.utf8ByteSize > maxNameBytes
  · simp only [if_pos hlong]
    refine iff_of_false ?_ fun hshort => by omega
    rintro ⟨_, -, _, -, _, -, hlast⟩
    cases hlast
  · simp only [if_neg hlong]
    constructor
    · rintro ⟨_, ⟨hfits, rfl⟩, _, hwalk, dir, ⟨hdir, rfl⟩, hlast⟩
      exact ⟨hfits, by omega, _, ⟨hwalk, hdir⟩, (Except.ok.inj hlast).symm⟩
    · rintro ⟨hfits, -, dir, ⟨hwalk, hdir⟩, rfl⟩
      exact ⟨_, ⟨hfits, rfl⟩, dir, hwalk, dir, ⟨hdir, rfl⟩, rfl⟩

/-- A file in a directory is found by a path that is not too long, and by its name in it. -/
theorem isFile_join :
    t.isFile here (d.join ⟨name⟩) =
      (decide ((d.join ⟨name⟩).text.utf8ByteSize ≤ maxPathBytes) &&
        ((t.dirAt? here d).bind (t.contentAt · name)).isSome) := by
  rw [Bool.eq_iff_iff, isFile_eq_true, Bool.and_eq_true, decide_eq_true_iff,
    Option.isSome_iff_exists]
  simp only [locate_join_eq_ok hname, Option.bind_eq_some_iff, contentAt_eq_some]
  constructor
  · rintro ⟨_, content, ⟨hfits, hshort, dir, hdir, -, rfl⟩, hfile⟩
    exact ⟨hfits, content, dir, hdir, hshort, hfile⟩
  · rintro ⟨hfits, content, dir, hdir, hshort, hfile⟩
    exact ⟨_, content, ⟨hfits, hshort, dir, hdir, by rw [hfile]; rfl, rfl⟩, hfile⟩

end Name

/-! ## Directories that are made -/

/-- Only directories come to a tree. -/
structure Grows (t t' : FileTree) : Prop where
  kept : ∀ {q e}, t.find q = some e → t'.find q = some e
  files : ∀ {q content}, t'.find q = some (.file content) → t.find q = some (.file content)

theorem Grows.refl (t : FileTree) : Grows t t := ⟨id, id⟩

theorem Grows.trans {t'' : FileTree} (h : Grows t t') (h' : Grows t' t'') : Grows t t'' :=
  ⟨fun hq => h'.kept (h.kept hq), fun hq => h.files (h'.files hq)⟩

theorem Grows.contentAt_eq (h : Grows t t') : t'.contentAt = t.contentAt := by
  funext dir name
  refine Option.ext fun content => ?_
  rw [contentAt_eq_some, contentAt_eq_some]
  exact and_congr_right fun _ => ⟨h.files, h.kept⟩

theorem Grows.dirAt? (h : Grows t t') (hd : t.dirAt? here d = some dir) :
    t'.dirAt? here d = some dir :=
  dirAt?_mono (fun _ => h.kept) hd

variable {p : Path}

theorem grows_makeDir (h : t.makeDir here p = .ok t') : Grows t t' := by
  rw [makeDir, bind_eq_ok] at h
  obtain ⟨place, -, hput⟩ := h
  split at hput
  · cases hput
  · next hfree =>
    obtain rfl := Except.ok.inj hput
    have hnone : t.find place = none := by simpa using hfree
    constructor
    · intro q e hq
      by_cases hroot : q = []
      · subst hroot
        exact hq
      · have hne : q ≠ place := by
          rintro rfl
          rw [hnone] at hq
          cases hq
        rwa [find_put hroot, if_neg hne]
    · intro q content hq
      by_cases hroot : q = []
      · subst hroot
        exact hq
      · rw [find_put hroot] at hq
        by_cases hplace : q = place
        · rw [if_pos hplace] at hq
          cases hq
        · rwa [if_neg hplace] at hq

theorem grows_makeDirOnce (h : t.makeDirOnce here p = .ok t') : Grows t t' := by
  unfold makeDirOnce at h
  split at h
  · next t₁ hmade =>
    obtain rfl := Except.ok.inj h
    exact grows_makeDir hmade
  · split at h
    · obtain rfl := Except.ok.inj h
      exact .refl t
    · cases h

/-- What was made before an error is there. -/
theorem grows_makeDirsAbove (depth : Nat) (p : Path) (t : FileTree) :
    Grows t (makeDirsAbove here depth p t).2 := by
  induction depth generalizing p t with
  | zero => exact .refl t
  | succ depth ih =>
    rw [makeDirsAbove]
    split
    · exact .refl t
    · split
      · next t₁ hmade => exact grows_makeDirOnce hmade
      · split
        · exact .refl t
        · next above _ =>
          have habove : Grows t (makeDirsAbove here depth above t).2 := ih above t
          split
          · next hfailed => rwa [hfailed] at habove
          · next t₁ hdone =>
            rw [hdone] at habove
            split
            · next t₂ hmade => exact habove.trans (grows_makeDirOnce hmade)
            · exact habove
      · exact .refl t

theorem grows_makeDirs (t : FileTree) (here : Place) (p : Path) : Grows t (t.makeDirs here p).2 :=
  grows_makeDirsAbove _ p t

/-! ## Files that get another name -/

theorem rename_eq_ok {source target : Path} :
    t.rename here source target = .ok t' ↔
      ∃ old new content, t.locate here source = .ok old ∧ t.placeFor here target = .ok new ∧
        isBelow old new = false ∧ t.find old = some (.file content) ∧ t.find new ≠ some .dir ∧
        t' = (t.erase old).put new (.file content) := by
  rw [rename, bind_eq_ok]
  constructor
  · rintro ⟨old, hold, h⟩
    obtain ⟨new, hnew, h⟩ := bind_eq_ok.mp h
    split at h
    · cases h
    · next hbelow =>
      split at h
      · cases h
      · cases h
      · cases h
      · next content hfile hfree =>
        obtain rfl := Except.ok.inj h
        exact ⟨old, new, content, hold, hnew, Bool.eq_false_iff.mpr hbelow, hfile, hfree, rfl⟩
  · rintro ⟨old, new, content, hold, hnew, hbelow, hfile, hfree, rfl⟩
    refine ⟨old, hold, bind_eq_ok.mpr ⟨new, hnew, ?_⟩⟩
    rw [hbelow, if_neg Bool.false_ne_true, hfile]
    split
    · next heq => cases heq
    · next heq => cases heq
    · next hdir => exact absurd hdir hfree
    · next content' heq _ =>
      cases heq
      rfl

theorem contentAt_erase {s : Place} {n : String} :
    (t.erase (s ++ [name])).contentAt dir n =
      if dir = s ∧ n = name then none else t.contentAt dir n := by
  have hplace : dir ++ [n] = s ++ [name] ↔ dir = s ∧ n = name := List.append_singleton_inj
  rw [contentAt, contentAt, find_erase (by simp)]
  by_cases hgone : dir = s ∧ n = name
  · rw [if_pos hgone, if_pos (hplace.mpr hgone)]
    exact ite_self _
  · rw [if_neg hgone, if_neg (mt hplace.mp hgone)]

theorem contentAt_put {u : Place} {n : String} {content : List UInt8}
    (hshort : name.utf8ByteSize ≤ maxNameBytes) :
    (t.put (u ++ [name]) (.file content)).contentAt dir n =
      if dir = u ∧ n = name then some content else t.contentAt dir n := by
  have hplace : dir ++ [n] = u ++ [name] ↔ dir = u ∧ n = name := List.append_singleton_inj
  rw [contentAt, contentAt, find_put (by simp)]
  by_cases hthere : dir = u ∧ n = name
  · rw [if_pos hthere, if_pos (hplace.mpr hthere), hthere.2, if_pos hshort]
  · rw [if_neg hthere, if_neg (mt hplace.mp hthere)]

/-- A file that keeps its name changes its directory, in place of any file that has the name there;
no other file changes, and directories stay. -/
theorem rename_join {source target : Path} (hname : Path.IsName name)
    (h : t.rename here (source.join ⟨name⟩) (target.join ⟨name⟩) = .ok t') :
    (∀ q, t.find q = some .dir → t'.find q = some .dir) ∧
      ∃ s u, t.dirAt? here source = some s ∧ t.dirAt? here target = some u ∧
        ∀ dir n, t'.contentAt dir n =
          if n = name then
            if dir = u then t.contentAt s name else if dir = s then none else t.contentAt dir n
          else t.contentAt dir n := by
  obtain ⟨_, _, content, hold, hnew, -, hfile, hfree, rfl⟩ := rename_eq_ok.mp h
  obtain ⟨-, -, s, hs, -, rfl⟩ := (locate_join_eq_ok hname).mp hold
  obtain ⟨-, hshort, u, hu, rfl⟩ := (placeFor_join_eq_ok hname).mp hnew
  have hcontent : t.contentAt s name = some content := contentAt_eq_some.mpr ⟨hshort, hfile⟩
  refine ⟨fun q hq => ?_, s, u, hs, hu, fun dir n => ?_⟩
  · by_cases hroot : q = []
    · subst hroot
      rfl
    · have hnew : q ≠ u ++ [name] := by
        rintro rfl
        exact hfree hq
      have hold : q ≠ s ++ [name] := by
        rintro rfl
        rw [hfile] at hq
        cases hq
      rwa [find_put hroot, if_neg hnew, find_erase hroot, if_neg hold]
  · rw [contentAt_put hshort, contentAt_erase]
    by_cases hn : n = name
    · subst hn
      simp [hcontent]
    · simp [hn]

end FileTree

end OtaCompile
