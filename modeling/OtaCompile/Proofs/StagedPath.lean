import OtaCompile.Proofs.FileTree

/-!
# Where artifacts are staged

The components of a path are those of its pieces, the first of which may stand for the root or for a
leading `.` (`Path.componentsOf`).  A relative path seen from another one adds what its pieces name
and nothing else (`Path.components_join`).  A staged directory is such a path made of names alone,
so it lies below the staging root, whatever directory it is staged for (`staged_below_root`).
-/

namespace OtaCompile

namespace Path

/-! ## Components of pieces -/

/-- The components that a list of pieces stands for. -/
def componentsOf : List String → List Component
  | "" :: r :: rs => .root :: (r :: rs).filterMap Component.ofPiece?
  | "." :: rs => .here :: rs.filterMap Component.ofPiece?
  | ps => ps.filterMap Component.ofPiece?

theorem components_eq (p : Path) : p.components = componentsOf p.pieces := by
  unfold components anchored
  generalize p.pieces = ps
  fun_cases componentsOf ps with
  | case1 r rs => rfl
  | case2 rs => rfl
  | case3 ps hroot hhere => simp_all

/-- A first piece that is neither empty nor a dot stands for what any other piece would. -/
theorem componentsOf_cons_of_ne {a : String} (hroot : a ≠ "") (hhere : a ≠ ".")
    (ps : List String) : componentsOf (a :: ps) = (a :: ps).filterMap Component.ofPiece? := by
  rw [componentsOf]
  · rintro r rs h
    exact hroot (List.cons.inj h).1
  · rintro rs h
    exact hhere (List.cons.inj h).1

theorem filterMap_ofPiece?_of_isName {ps : List String} (h : ∀ s ∈ ps, IsName s) :
    ps.filterMap Component.ofPiece? = ps.map Component.name := by
  rw [← List.filterMap_eq_map]
  refine List.filterMap_congr fun s hs => ?_
  exact ofPiece?_eq_name_iff.mpr ⟨rfl, (h s hs).notBlank, (h s hs).notUp⟩

/-- Pieces behind others add what they name.  Only behind a single empty piece, which names nothing,
they would turn that piece into the root. -/
theorem componentsOf_append {ps : List String} (hne : ps ≠ []) (hempty : ps ≠ [""])
    (qs : List String) :
    componentsOf (ps ++ qs) = componentsOf ps ++ qs.filterMap Component.ofPiece? := by
  obtain ⟨a, as, rfl⟩ := List.exists_cons_of_ne_nil hne
  by_cases hroot : a = ""
  · subst hroot
    obtain ⟨r, rs, rfl⟩ := List.exists_cons_of_ne_nil fun h => hempty (congrArg _ h)
    simp only [List.cons_append, componentsOf]
    rw [← List.cons_append, List.filterMap_append]
  · by_cases hhere : a = "."
    · subst hhere
      simp only [List.cons_append, componentsOf, List.filterMap_append]
    · rw [List.cons_append, componentsOf_cons_of_ne hroot hhere,
        componentsOf_cons_of_ne hroot hhere, ← List.cons_append, List.filterMap_append]

/-- A trailing slash is of no matter to what stands behind it. -/
theorem componentsOf_append_of_slash {ps qs : List String} (hps : ps ≠ []) (hqs : qs ≠ []) :
    componentsOf (ps ++ qs) = componentsOf (ps ++ [""]) ++ qs.filterMap Component.ofPiece? := by
  have hblank : [""].filterMap Component.ofPiece? = [] := rfl
  by_cases hempty : ps = [""]
  · subst hempty
    obtain ⟨q, qs, rfl⟩ := List.exists_cons_of_ne_nil hqs
    rfl
  · rw [componentsOf_append hps hempty, componentsOf_append hps hempty, hblank, List.append_nil]

/-! ## Joining -/

theorem pieces_ne_nil (p : Path) : p.pieces ≠ [] := by
  intro h
  have hfields := List.map_eq_nil_iff.mp h
  exact Text.fields_ne_nil _ hfields

theorem pieces_ne_blank {p : Path} (h : p.text ≠ "") : p.pieces ≠ [""] := by
  intro hpieces
  refine h ?_
  rw [← @Text.join_split '/' p.text, show Text.split '/' p.text = [""] from hpieces]
  rfl

/-- A relative path adds what its pieces name, seen from anywhere but the empty path. -/
theorem components_join {p q : Path} (hp : p.text ≠ "") (hq : q.isAbsolute = false) :
    (p.join q).components = p.components ++ q.pieces.filterMap Component.ofPiece? := by
  have hempty := pieces_ne_blank hp
  obtain ⟨ps, hjoined, hps | hps⟩ := pieces_join_of_relative (d := p) hq
  · rw [components_eq, components_eq, hjoined, ← hps]
    exact componentsOf_append p.pieces_ne_nil hempty _
  · have hne : ps ≠ [] := by
      rintro rfl
      exact hempty hps
    rw [components_eq, components_eq, hjoined, hps]
    exact componentsOf_append_of_slash hne q.pieces_ne_nil

/-! ## Relative paths of names -/

/-- A component that names something below what is in front of it. -/
def Component.isName : Component → Bool
  | .name _ => true
  | _ => false

theorem map_name_names (p : Path) :
    p.names.map Component.name = p.components.filter Component.isName := by
  rw [names, List.map_filterMap, ← List.filterMap_eq_filter]
  refine List.filterMap_congr fun k _ => ?_
  cases k <;> rfl

theorem isName_of_mem_names {p : Path} {s : String} (h : s ∈ p.names) : IsName s := by
  have hmem : Component.name s ∈ p.components := by
    have := List.mem_map_of_mem (f := Component.name) h
    rw [map_name_names] at this
    exact List.mem_of_mem_filter this
  exact isName_of_mem_components hmem

section OfNames

variable {ns : List String} (h : ∀ s ∈ ns, IsName s)
include h

theorem isAbsolute_ofNames : (ofNames ns).isAbsolute = false := by
  cases ns with
  | nil => rfl
  | cons n ns =>
    have hn := h n List.mem_cons_self
    have hne : n.toList ≠ [] := fun hnil => hn.ne_empty (String.toList_eq_nil_iff.mp hnil)
    have hhead : (ofNames (n :: ns)).text.toList.head? = n.toList.head? := by
      rw [ofNames, Text.join, String.toList_ofList]
      cases ns with
      | nil => rfl
      | cons m ns => exact List.head?_append_of_ne_nil _ hne
    have hslash : n.toList.head? ≠ some '/' := fun hhead => hn.noSlash (List.mem_of_head? hhead)
    rw [isAbsolute, hhead]
    exact beq_eq_false_iff_ne.mpr hslash

theorem pieces_ofNames (hne : ns ≠ []) : (ofNames ns).pieces = ns :=
  Text.split_join hne fun s hs => (h s hs).noSlash

theorem filterMap_pieces_ofNames :
    (ofNames ns).pieces.filterMap Component.ofPiece? = ns.map Component.name := by
  by_cases hne : ns = []
  · subst hne
    rfl
  · rw [pieces_ofNames h hne]
    exact filterMap_ofPiece?_of_isName h

/-- No name is taken for the root or for a leading `.`. -/
theorem components_ofNames : (ofNames ns).components = ns.map Component.name := by
  rw [components_eq, ← filterMap_pieces_ofNames h]
  cases ns with
  | nil => rfl
  | cons n ns =>
    have hn := h n List.mem_cons_self
    have hhere : n ≠ "." := by
      rintro rfl
      exact absurd hn.notBlank (by decide)
    rw [pieces_ofNames h (List.cons_ne_nil n ns)]
    exact componentsOf_cons_of_ne hn.ne_empty hhere ns

end OfNames

end Path

open OtaCompile.Path

/-! ## Staged directories -/

theorem components_stagedDir (root dir : Path) :
    (stagedDir root dir).components =
      root.components ++ dir.components.filter Component.isName := by
  have hnames : ∀ s ∈ dir.names, IsName s := fun s hs => isName_of_mem_names hs
  have habsolute := isAbsolute_ofNames hnames
  rw [stagedDir, ← map_name_names]
  by_cases hroot : root.text = ""
  · have hjoin : root.join (ofNames dir.names) = ofNames dir.names := by
      simp [join, habsolute, hroot]
    have hnone : root.components = [] := by
      rw [components_eq, pieces, hroot]
      rfl
    rw [hjoin, hnone, List.nil_append]
    exact components_ofNames hnames
  · rw [components_join hroot habsolute, filterMap_pieces_ofNames hnames]

/-- Which names are staged says where they are, down to the spelling. -/
theorem stagedDir_congr {dir dir' : Path} (root : Path)
    (h : dir'.components.filter Component.isName = dir.components.filter Component.isName) :
    stagedDir root dir' = stagedDir root dir := by
  have hinj : Function.Injective Component.name := fun s s' heq => Component.name.inj heq
  rw [← map_name_names, ← map_name_names] at h
  rw [stagedDir, stagedDir, List.map_injective_iff.mpr hinj h]

/-- **Staged directories.**  For every staging root and every directory, however they are spelled:
the components of the staged directory are those of the root and behind them the names among those
of the directory, in order.  So it lies below the root, and on the way nothing leads up or back to
where absolute paths begin.  Directories with the same components are staged in the same place, and
those that are staged in the same place under one root have the same names. -/
theorem staged_below_root (root dir : Path) :
    (stagedDir root dir).components =
      root.components ++ dir.components.filter Component.isName ∧
    (stagedDir root dir).startsWith root = true ∧
    (∀ k ∈ (stagedDir root dir).components.drop root.components.length, ∃ s, k = .name s) ∧
    (stagedDir root dir).components.count .up = root.components.count .up ∧
    ∀ dir' : Path,
      (dir'.components = dir.components → stagedDir root dir' = stagedDir root dir) ∧
      ((stagedDir root dir').components = (stagedDir root dir).components ↔
        dir'.components.filter Component.isName = dir.components.filter Component.isName) := by
  have hcomponents := components_stagedDir root dir
  have hadded : ∀ k ∈ dir.components.filter Component.isName, ∃ s, k = .name s := by
    intro k hk
    have hname := (List.mem_filter.mp hk).2
    cases k with
    | name s => exact ⟨s, rfl⟩
    | root => cases hname
    | here => cases hname
    | up => cases hname
  refine ⟨hcomponents, ?_, ?_, ?_, fun dir' => ⟨?_, ?_⟩⟩
  · rw [startsWith, hcomponents]
    exact List.isPrefixOf_iff_prefix.mpr (List.prefix_append _ _)
  · rw [hcomponents, List.drop_left]
    exact hadded
  · have hnone : Component.up ∉ dir.components.filter Component.isName := by
      intro hup
      obtain ⟨s, hs⟩ := hadded _ hup
      cases hs
    rw [hcomponents, List.count_append, List.count_eq_zero.mpr hnone, Nat.add_zero]
  · intro hsame
    exact stagedDir_congr root (congrArg _ hsame)
  · constructor
    · intro hsame
      rw [components_stagedDir, components_stagedDir] at hsame
      exact List.append_cancel_left hsame
    · intro hnames
      rw [stagedDir_congr root hnames]

/-- Slashes, dots and steps up are of no matter. -/
example :
    stagedDir ⟨"/data/ota/"⟩ ⟨"/data/./app//../app/oat/"⟩ = ⟨"/data/ota/data/app/app/oat"⟩ := by
  decide

end OtaCompile
