import Mathlib.Data.List.Nodup
import Mathlib.Data.List.TakeWhile
import OtaCompile.Host.Staging
import OtaCompile.Proofs.Text

/-!
# Names of artifacts

A file name is a piece of a path that names something (`Path.IsName`), and it is the file name of
itself (`Path.fileName_eq_self_iff`).  Its stem ends in front of the last dot behind its first
character (`Path.stemOf_cases`).  An artifact is named by the stem of its code path, of which the
stem is taken once more: so a code path whose name has a second inner dot shares its artifacts with
others.  The files of a set have names of their own, unless the stem is a dot or two
(`isSet_setNames`).
-/

namespace OtaCompile

namespace Path

/-! ## File names -/

/-- A piece of a path that names something below what is in front of it. -/
structure IsName (s : String) : Prop where
  noSlash : '/' ∉ s.toList
  notBlank : blank s = false
  notUp : s ≠ ".."

theorem ofPiece?_eq_name_iff {piece s : String} :
    Component.ofPiece? piece = some (.name s) ↔ piece = s ∧ blank s = false ∧ s ≠ ".." := by
  unfold Component.ofPiece?
  split
  · next hblank => exact iff_of_false nofun fun ⟨h, hs, _⟩ => by simp [← h, hblank] at hs
  · next hblank =>
    split
    · next hup => exact iff_of_false nofun fun ⟨h, _, hs⟩ => hs (h ▸ eq_of_beq hup)
    · next hup =>
      rw [Option.some.injEq, Component.name.injEq]
      constructor
      · rintro rfl
        exact ⟨rfl, Bool.eq_false_iff.mpr hblank, fun h => hup (h ▸ beq_self_eq_true _)⟩
      · exact And.left

theorem mem_pieces_of_mem_anchored {p : Path} {piece : String} (h : piece ∈ p.anchored.2) :
    piece ∈ p.pieces := by
  unfold anchored at h
  split at h <;> simp_all

/-- The components that are names stand among the pieces. -/
theorem isName_of_mem_components {p : Path} {s : String} (h : .name s ∈ p.components) :
    IsName s := by
  have hbody : ∃ piece ∈ p.anchored.2, Component.ofPiece? piece = some (.name s) := by
    unfold components at h
    split at h <;> simp_all
  obtain ⟨piece, hpiece, hs⟩ := hbody
  obtain ⟨rfl, hblank, hup⟩ := ofPiece?_eq_name_iff.mp hs
  exact ⟨Text.not_mem_of_mem_split (mem_pieces_of_mem_anchored hpiece), hblank, hup⟩

theorem isName_of_fileName {p : Path} {s : String} (h : p.fileName = some s) : IsName s := by
  unfold fileName at h
  split at h
  · next hlast =>
    obtain rfl := Option.some.inj h
    exact isName_of_mem_components (List.mem_of_getLast? hlast)
  · cases h

/-- Exactly the names are file names of themselves. -/
theorem fileName_eq_self_iff {s : String} : (Path.mk s).fileName = some s ↔ IsName s := by
  refine ⟨isName_of_fileName, fun h => ?_⟩
  have hpieces : (Path.mk s).pieces = [s] := Text.split_of_not_mem h.noSlash
  have hanchored : (Path.mk s).anchored = ([], [s]) := by
    unfold anchored
    rw [hpieces]
    split
    · next heq => cases heq
    · next heq =>
      obtain ⟨rfl, -⟩ := List.cons.inj heq
      exact absurd h.notBlank (by decide)
    · rfl
  have hcomponents : (Path.mk s).components = [.name s] := by
    have hs : Component.ofPiece? s = some (.name s) :=
      ofPiece?_eq_name_iff.mpr ⟨rfl, h.notBlank, h.notUp⟩
    rw [components, hanchored]
    simp [hs]
  rw [fileName, hcomponents]
  rfl

/-! ## Stems -/

/-- What stands behind the last dot is passed over from the end. -/
theorem dropWhile_reverse {a b : List Char} (hb : '.' ∉ b) :
    (a ++ '.' :: b).reverse.dropWhile (· != '.') = '.' :: a.reverse := by
  have hskip : ∀ c ∈ b.reverse, (c != '.') = true := by
    intro c hc
    exact bne_iff_ne.mpr fun hdot => hb (hdot ▸ List.mem_reverse.mp hc)
  rw [List.reverse_append, List.reverse_cons, List.append_assoc, List.singleton_append,
    List.dropWhile_append_of_pos hskip]
  rfl

/-- The stem of a name is the name itself, if it has no dot behind its first character, and else
what stands in front of the last dot. -/
theorem stemOf_cases (s : String) :
    '.' ∉ s.toList.tail ∧ stemOf s = s ∨
      ∃ a b : List Char, a ≠ [] ∧ '.' ∉ b ∧ s.toList = a ++ '.' :: b ∧
        stemOf s = String.ofList a := by
  by_cases hdot : '.' ∈ s.toList
  · obtain ⟨b, a, hs, hb⟩ := List.eq_append_cons_of_mem (List.mem_reverse.mpr hdot)
    have hs : s.toList = a.reverse ++ '.' :: b.reverse := by
      rw [← List.reverse_reverse s.toList, hs]
      simp
    have hb : '.' ∉ b.reverse := mt List.mem_reverse.mp hb
    have hback := dropWhile_reverse (a := a.reverse) hb
    rw [← hs, List.reverse_reverse] at hback
    cases a with
    | nil =>
      refine .inl ⟨by rwa [hs], ?_⟩
      simp only [stemOf, hback]
    | cons c a =>
      refine .inr ⟨_, _, by simp, hb, hs, ?_⟩
      simp only [stemOf, hback]
  · have hback : s.toList.reverse.dropWhile (· != '.') = [] := by
      refine List.dropWhile_eq_nil_iff.mpr fun c hc => bne_iff_ne.mpr fun h => hdot ?_
      exact h ▸ List.mem_reverse.mp hc
    refine .inl ⟨fun h => hdot (List.mem_of_mem_tail h), ?_⟩
    simp only [stemOf, hback]

theorem stemOf_eq_self_iff {s : String} : stemOf s = s ↔ '.' ∉ s.toList.tail := by
  rcases stemOf_cases s with ⟨hdot, hs⟩ | ⟨a, b, ha, -, hs, hstem⟩
  · exact iff_of_true hs hdot
  · refine iff_of_false (fun h => ?_) fun h => h ?_
    · have hlength := congrArg (String.length ∘ String.ofList) hs
      rw [← hstem.symm.trans h] at hlength
      simp at hlength
    · rw [hs, List.tail_append_of_ne_nil ha]
      simp

theorem noSlash_stemOf {s : String} (h : '/' ∉ s.toList) : '/' ∉ (stemOf s).toList := by
  rcases stemOf_cases s with ⟨-, hs⟩ | ⟨a, b, -, -, hs, hstem⟩
  · rwa [hs]
  · rw [hstem, String.toList_ofList]
    exact fun hmem => h (hs ▸ List.mem_append_left _ hmem)

theorem stemOf_ne_empty {s : String} (h : s ≠ "") : stemOf s ≠ "" := by
  rcases stemOf_cases s with ⟨-, hs⟩ | ⟨a, b, ha, -, -, hstem⟩
  · rwa [hs]
  · rw [hstem]
    simpa using ha

theorem fileStem_ne_empty {p : Path} {stem : String} (h : p.fileStem = some stem) : stem ≠ "" := by
  obtain ⟨s, hs, rfl⟩ := Option.map_eq_some_iff.mp h
  refine stemOf_ne_empty fun hnil => ?_
  exact absurd (isName_of_fileName hs).notBlank (by simp [hnil, blank])

theorem noSlash_of_fileStem {p : Path} {stem : String} (h : p.fileStem = some stem) :
    '/' ∉ stem.toList := by
  obtain ⟨s, hs, rfl⟩ := Option.map_eq_some_iff.mp h
  exact noSlash_stemOf (isName_of_fileName hs).noSlash

/-- A dot or two, which name no file. -/
def IsDots (s : String) : Prop := s = "." ∨ s = ".."
deriving Decidable

/-- A stem is a name, unless it is a dot or two. -/
theorem isName_iff_of_fileStem {p : Path} {stem : String} (h : p.fileStem = some stem) :
    IsName stem ↔ ¬ IsDots stem := by
  constructor
  · rintro hstem (hhere | hup)
    · exact absurd hstem.notBlank (by simp [hhere, blank])
    · exact hstem.notUp hup
  · intro hdots
    obtain ⟨hhere, hup⟩ := not_or.mp hdots
    exact ⟨noSlash_of_fileStem h, by simp [blank, fileStem_ne_empty h, hhere], hup⟩

/-- No dot but as the first character, and more than that. -/
def Undotted (s : String) : Prop := s ≠ "." ∧ '.' ∉ s.toList.tail
deriving Decidable

theorem Undotted.not_isDots {s : String} (h : Undotted s) : ¬ IsDots s := by
  rintro (hhere | rfl)
  · exact h.1 hhere
  · exact h.2 (by simp)

end Path

/-! ## Artifacts -/

variable {codePath codePath' : Path} {stem stem' extension : String}

/-- An artifact is named by the stem of the stem, unless that is a dot or two. -/
theorem artifactFileName_eq (hstem : codePath.fileStem = some stem) (hextension : extension ≠ "") :
    artifactFileName codePath extension =
      some (if Path.IsDots stem then stem else Path.stemOf stem ++ "." ++ extension) := by
  rw [artifactFileName, hstem, Option.map_some, Path.nameWithExtension]
  by_cases hdots : Path.IsDots stem
  · have hself : ¬ (Path.mk stem).fileName = some stem := by
      rwa [Path.fileName_eq_self_iff, Path.isName_iff_of_fileStem hstem, not_not]
    rw [if_pos hdots, if_neg (by simpa using hself)]
  · have hself : (Path.mk stem).fileName = some stem := by
      rwa [Path.fileName_eq_self_iff, Path.isName_iff_of_fileStem hstem]
    rw [if_neg hdots, if_pos (by simpa using hself), if_neg (by simpa using hextension)]

theorem extension_ne_empty (h : extension ∈ artifactExtensions) : extension ≠ "" :=
  (by decide : ∀ e ∈ artifactExtensions, e ≠ "") extension h

/-- A name that goes on behind a dot is more than a dot or two. -/
theorem not_isDots_append {s : String} (hs : s ≠ "") (hextension : extension ≠ "") :
    ¬ Path.IsDots (s ++ "." ++ extension) := by
  have hs' : s.length ≠ 0 := mt String.length_eq_zero_iff.mp hs
  have hextension' : extension.length ≠ 0 := mt String.length_eq_zero_iff.mp hextension
  have hone : ".".length = 1 := rfl
  have htwo : "..".length = 2 := rfl
  rintro (h | h)
  · have hlength := congrArg String.length h
    simp only [String.length_append] at hlength
    omega
  · have hlength := congrArg String.length h
    simp only [String.length_append] at hlength
    omega

/-- What stands in front of an extension can be told from the name. -/
theorem append_extension_inj {s s' : String} :
    s ++ "." ++ extension = s' ++ "." ++ extension ↔ s = s' := by
  refine ⟨fun h => ?_, fun h => h ▸ rfl⟩
  have hlist := congrArg String.toList h
  simpa [String.toList_inj] using hlist

/-- Two code paths share the names of their artifacts if their stems have the same stem. -/
def Path.SharesNames (stem stem' : String) : Prop :=
  if IsDots stem ∨ IsDots stem' then stem = stem' else stemOf stem = stemOf stem'

theorem artifactFileName_eq_iff (hstem : codePath.fileStem = some stem)
    (hstem' : codePath'.fileStem = some stem') (hextension : extension ∈ artifactExtensions) :
    artifactFileName codePath extension = artifactFileName codePath' extension ↔
      Path.SharesNames stem stem' := by
  have hne := extension_ne_empty hextension
  have hmore {codePath : Path} {stem : String} (h : codePath.fileStem = some stem) :
      ¬ Path.IsDots (Path.stemOf stem ++ "." ++ extension) :=
    not_isDots_append (Path.stemOf_ne_empty (Path.fileStem_ne_empty h)) hne
  rw [artifactFileName_eq hstem hne, artifactFileName_eq hstem' hne, Option.some.injEq,
    Path.SharesNames]
  by_cases hdots : Path.IsDots stem
  · by_cases hdots' : Path.IsDots stem'
    · rw [if_pos hdots, if_pos hdots', if_pos (.inl hdots)]
    · rw [if_pos hdots, if_neg hdots', if_pos (.inl hdots)]
      exact iff_of_false (fun h => hmore hstem' (h ▸ hdots)) fun h => hdots' (h ▸ hdots)
  · by_cases hdots' : Path.IsDots stem'
    · rw [if_neg hdots, if_pos hdots', if_pos (.inr hdots')]
      exact iff_of_false (fun h => hmore hstem (h ▸ hdots')) fun h => hdots (h ▸ hdots')
    · rw [if_neg hdots, if_neg hdots', if_neg (not_or.mpr ⟨hdots, hdots'⟩)]
      exact append_extension_inj

/-- The mover has the same to do for code paths that share the names of their artifacts. -/
theorem moveArtifacts_of_sharesNames (hstem : codePath.fileStem = some stem)
    (hstem' : codePath'.fileStem = some stem') (h : Path.SharesNames stem stem')
    (staging : Path) (isa : InstructionSet) (dir : Path) :
    Host.moveArtifacts staging codePath isa dir = Host.moveArtifacts staging codePath' isa dir := by
  have hnames (extensions : List String) (hall : extensions ⊆ artifactExtensions) :
      extensions.mapM (artifactFileName codePath) =
        extensions.mapM (artifactFileName codePath') := by
    induction extensions with
    | nil => rw [List.mapM_nil, List.mapM_nil]
    | cons extension extensions ih =>
      obtain ⟨hextension, hextensions⟩ := List.cons_subset.mp hall
      rw [List.mapM_cons, List.mapM_cons, ih hextensions,
        (artifactFileName_eq_iff hstem hstem' hextension).mpr h]
  have hsame : artifactFileNames codePath = artifactFileNames codePath' :=
    hnames _ (List.Subset.refl _)
  delta Host.moveArtifacts
  rw [hsame]

theorem Path.Undotted.stemOf_eq (h : Path.Undotted stem) : Path.stemOf stem = stem :=
  Path.stemOf_eq_self_iff.mpr h.2

/-- A name that is a dot or two has no dot and no extension behind it. -/
theorem ne_append_of_isDots (hdots : Path.IsDots stem) (hextension : extension ≠ "") :
    stem ≠ stem ++ "." ++ extension := fun h =>
  not_isDots_append (by rintro rfl; revert hdots; decide) hextension (h ▸ hdots)

theorem isName_append (hstem : codePath.fileStem = some stem)
    (hextension : extension ∈ artifactExtensions) :
    Path.IsName (Path.stemOf stem ++ "." ++ extension) := by
  have hne := extension_ne_empty hextension
  have hstem' := Path.stemOf_ne_empty (Path.fileStem_ne_empty hstem)
  have hdots := not_isDots_append hstem' hne
  have hslash : '/' ∉ extension.toList :=
    (by decide : ∀ e ∈ artifactExtensions, '/' ∉ e.toList) extension hextension
  refine ⟨?_, ?_, fun hup => hdots (.inr hup)⟩
  · simp [Path.noSlash_stemOf (Path.noSlash_of_fileStem hstem), hslash]
  · have hhere : Path.stemOf stem ++ "." ++ extension ≠ "." := fun hhere => hdots (.inl hhere)
    simp [Path.blank, hhere, hne]

/-- **Names of artifacts.**  An artifact is named by the stem of its code path's stem; only if that
is a dot or two, it is named so, and no file is.  Hence the name has the whole stem exactly if that
has no dot behind its first character, and code paths with different stems of this kind share no
name.  Others do, for every extension, if their stems differ only behind the last dot, and then the
mover has the same to do for both code paths. -/
theorem artifactFileName_spec (hstem : codePath.fileStem = some stem)
    (hextension : extension ∈ artifactExtensions) :
    let name := if Path.IsDots stem then stem else Path.stemOf stem ++ "." ++ extension
    artifactFileName codePath extension = some name ∧
    ((Path.mk name).fileName = some name ↔ ¬ Path.IsDots stem) ∧
    (name = stem ++ "." ++ extension ↔ Path.Undotted stem) ∧
    ∀ codePath' stem', codePath'.fileStem = some stem' →
      (artifactFileName codePath' extension = some name ↔ Path.SharesNames stem stem') ∧
      (Path.Undotted stem → Path.Undotted stem' → Path.SharesNames stem stem' → stem = stem') ∧
      (Path.SharesNames stem stem' → ∀ staging isa dir,
        Host.moveArtifacts staging codePath isa dir =
          Host.moveArtifacts staging codePath' isa dir) := by
  intro name
  have hne := extension_ne_empty hextension
  have hname : artifactFileName codePath extension = some name := artifactFileName_eq hstem hne
  refine ⟨hname, ?_, ?_, fun codePath' stem' hstem' => ⟨?_, ?_, ?_⟩⟩
  · rw [Path.fileName_eq_self_iff]
    by_cases hdots : Path.IsDots stem
    · have hself : name = stem := if_pos hdots
      rw [hself, Path.isName_iff_of_fileStem hstem]
    · have hlonger : name = Path.stemOf stem ++ "." ++ extension := if_neg hdots
      rw [hlonger]
      exact iff_of_true (isName_append hstem hextension) hdots
  · by_cases hdots : Path.IsDots stem
    · have hself : name = stem := if_pos hdots
      rw [hself]
      exact iff_of_false (ne_append_of_isDots hdots hne) fun h => h.not_isDots hdots
    · have hlonger : name = Path.stemOf stem ++ "." ++ extension := if_neg hdots
      rw [hlonger, append_extension_inj, Path.stemOf_eq_self_iff]
      exact ⟨fun h => ⟨fun hhere => hdots (.inl hhere), h⟩, And.right⟩
  · rw [← hname, eq_comm]
    exact artifactFileName_eq_iff hstem hstem' hextension
  · intro h h' hshares
    rw [Path.SharesNames, if_neg (not_or.mpr ⟨h.not_isDots, h'.not_isDots⟩), h.stemOf_eq,
      h'.stemOf_eq] at hshares
    exact hshares
  · exact moveArtifacts_of_sharesNames hstem hstem'

/-- A hidden file has a stem without another dot. -/
theorem artifactFileName_hidden :
    (Path.mk "/data/app/mail//.base.apk/.").fileStem = some ".base" ∧ "vdex" ∈ artifactExtensions ∧
      artifactFileName ⟨"/data/app/mail//.base.apk/."⟩ "vdex" = some ".base.vdex" := by
  have hstem : (Path.mk "/data/app/mail//.base.apk/.").fileStem = some ".base" := by decide
  have hextension : "vdex" ∈ artifactExtensions := by decide
  obtain ⟨hname, -, hwhole, -⟩ := artifactFileName_spec hstem hextension
  exact ⟨hstem, hextension, hname.trans (congrArg some (hwhole.mpr (by decide)))⟩

/-- Splits for two instruction sets share the names of their artifacts, which have neither's whole
stem. -/
theorem splits_share_artifactFileName :
    let arm64 : Path := ⟨"/data/app/mail/split_config.arm64.apk"⟩
    let x86 : Path := ⟨"/data/app/mail/split_config.x86.apk"⟩
    arm64.fileStem = some "split_config.arm64" ∧ x86.fileStem = some "split_config.x86" ∧
      artifactFileName arm64 "odex" ≠ some ("split_config.arm64" ++ "." ++ "odex") ∧
      ∀ extension ∈ artifactExtensions,
        artifactFileName arm64 extension = artifactFileName x86 extension := by
  intro arm64 x86
  have harm64 : arm64.fileStem = some "split_config.arm64" := by decide
  have hx86 : x86.fileStem = some "split_config.x86" := by decide
  refine ⟨harm64, hx86, ?_, fun extension hextension => ?_⟩
  · rw [artifactFileName_eq harm64 (by decide)]
    decide
  · refine (artifactFileName_eq_iff harm64 hx86 hextension).mpr ?_
    rw [Path.SharesNames]
    decide

/-! ## Sets of artifacts -/

/-- The names of the files of a set; there are none if the code path ends in no name. -/
def setNames (codePath : Path) : List String :=
  artifactExtensions.filterMap (artifactFileName codePath)

theorem setNames_of_fileStem (hstem : codePath.fileStem = some stem) :
    setNames codePath = artifactExtensions.map (Path.nameWithExtension stem) := by
  have hname : artifactFileName codePath = some ∘ Path.nameWithExtension stem := by
    funext extension
    rw [artifactFileName, hstem]
    rfl
  rw [setNames, hname, List.filterMap_eq_map]

theorem append_extension_right_inj {s e e' : String} :
    s ++ "." ++ e = s ++ "." ++ e' ↔ e = e' := by
  rw [← String.toList_inj, ← String.toList_inj]
  simp only [String.toList_append, List.append_cancel_left_eq]

/-- Every file of a set has a name, and one of its own. -/
structure IsSet (names : List String) : Prop where
  isName : ∀ n ∈ names, Path.IsName n
  nodup : names.Nodup

/-- A stem that is more than a dot or two makes a set. -/
theorem isSet_setNames (hstem : codePath.fileStem = some stem) (hdots : ¬ Path.IsDots stem) :
    IsSet (setNames codePath) := by
  have hname : ∀ extension ∈ artifactExtensions,
      Path.nameWithExtension stem extension = Path.stemOf stem ++ "." ++ extension := by
    intro extension hextension
    have heq := artifactFileName_eq hstem (extension_ne_empty hextension)
    rw [if_neg hdots, artifactFileName, hstem] at heq
    exact Option.some.inj heq
  have hnames : setNames codePath =
      artifactExtensions.map fun extension => Path.stemOf stem ++ "." ++ extension := by
    rw [setNames_of_fileStem hstem]
    exact List.map_congr_left hname
  rw [hnames]
  constructor
  · intro n hn
    obtain ⟨extension, hextension, rfl⟩ := List.mem_map.mp hn
    exact isName_append hstem hextension
  · have hinj : Function.Injective fun extension => Path.stemOf stem ++ "." ++ extension :=
      fun e e' h => append_extension_right_inj.mp h
    exact List.Nodup.map hinj (by decide)

/-- A stem that is a dot or two is all that the set has for names. -/
theorem isDots_of_mem_setNames (hstem : codePath.fileStem = some stem) (hdots : Path.IsDots stem)
    {name : String} (hname : name ∈ setNames codePath) : Path.IsDots name := by
  obtain ⟨extension, hextension, heq⟩ := List.mem_filterMap.mp hname
  rw [artifactFileName_eq hstem (extension_ne_empty hextension), if_pos hdots] at heq
  exact Option.some.inj heq ▸ hdots

end OtaCompile
