import Mathlib.Data.Set.Function
import OtaCompile.Invocation.Reader
import OtaCompile.Proofs.OsText
import OtaCompile.Proofs.Text

/-!
# Commands read back

A command knows no quoting.  Of the fields of an invocation only its free texts can hold a blank
(`mem_arguments_iff`), so its command is cut into the fields it was made of if none of these texts
holds a space.  A field then stands for what it was written for, unless it is `!` or a library holds
a colon (`readOutputDir_text`, `readLibraries_text`).  Conversely no reading brings back a text that
a separator would have cut (`readable_of_invocation?`).  Nor does it bring back a path that is not
text, which is written with other characters in place of some bytes (`reads_back_iff_readable`).
-/

namespace OtaCompile

open Text

namespace Invocation

variable {i : Invocation} {c : Char}

/-- The texts of an invocation that may hold any character. -/
def texts (i : Invocation) : List String :=
  [i.codePath.text, i.packageName] ++ (i.outputDir.toList ++ i.sharedLibraries).map Path.text

/-- No text of the invocation holds a separator of the field it stands in, and none that is there is
spelled like the mark for one that is absent. -/
def Readable (i : Invocation) : Prop :=
  (∀ s ∈ i.texts, ' ' ∉ s.toList) ∧ i.outputDir ≠ some ⟨"!"⟩ ∧
    (∀ l ∈ i.sharedLibraries, ':' ∉ l.text.toList) ∧ i.sharedLibraries ≠ [⟨"!"⟩]
deriving Decidable

/-! ### Blanks in the fields -/

theorem toList_decimal (n : UInt32) : (toString n).toList = Nat.toDigits 10 n.toNat := by
  show (Nat.repr n.toNat).toList = Nat.toDigits 10 n.toNat
  rw [Nat.repr_eq_ofList_toDigits, String.toList_ofList]

theorem decimal_noBlank (n : UInt32) : NoBlank (toString n) := by
  intro d hd
  rw [toList_decimal] at hd
  exact isBlank_of_isDigit (all_isDigit_toDigits n.toNat d hd)

theorem instructionSet_noBlank (isa : InstructionSet) : NoBlank (Named.name isa) := by
  cases isa <;> decide

theorem filter_noBlank (f : Compiler.Filter) : NoBlank (Named.name f) := by
  cases f <;> decide

theorem mem_outputDir_iff (hc : isBlank c = true) (dir : Option Path) :
    c ∈ ((dir.map Path.text).getD "!").toList ↔ ∃ s ∈ dir.toList.map Path.text, c ∈ s.toList := by
  cases dir with
  | none =>
    have hmark : c ∉ "!".toList := not_mem_of_noBlank hc (by decide)
    simpa using hmark
  | some d => simp

theorem mem_libraries_iff (hc : isBlank c = true) (ls : List Path) :
    c ∈ (if ls.isEmpty then "!" else join ':' (ls.map Path.text)).toList ↔
      ∃ s ∈ ls.map Path.text, c ∈ s.toList := by
  by_cases hls : ls.isEmpty = true
  · rw [if_pos hls, List.isEmpty_iff.mp hls]
    exact mem_outputDir_iff hc none
  · have hcolon : c ≠ ':' := by
      rintro rfl
      revert hc
      decide
    rw [if_neg hls, mem_join_iff hcolon]

/-- The other fields are a number, a name from a fixed list, or a mark. -/
theorem mem_arguments_iff (hc : isBlank c = true) (i : Invocation) :
    (∃ f ∈ i.arguments, c ∈ f.toList) ↔ ∃ s ∈ i.texts, c ∈ s.toList := by
  have huid : c ∉ (toString i.uid).toList := not_mem_of_noBlank hc (decimal_noBlank i.uid)
  have hisa : c ∉ (Named.name i.instructionSet).toList :=
    not_mem_of_noBlank hc (instructionSet_noBlank i.instructionSet)
  have hflags : c ∉ (toString i.flags.bits).toList :=
    not_mem_of_noBlank hc (decimal_noBlank i.flags.bits)
  have hfilter : c ∉ (Named.name i.filter).toList := not_mem_of_noBlank hc (filter_noBlank i.filter)
  simp only [arguments, texts, List.cons_append, List.nil_append, List.map_append, List.mem_cons,
    List.not_mem_nil, or_false, List.mem_append, exists_eq_left, or_and_right, exists_or, huid,
    hisa, hflags, hfilter, false_or, mem_outputDir_iff hc, mem_libraries_iff hc]

/-! ### From the invocation to its command and back -/

theorem split_command (h : ∀ s ∈ i.texts, ' ' ∉ s.toList) :
    split ' ' i.command.text = "dexopt" :: i.arguments := by
  refine split_join (List.cons_ne_nil _ _) ?_
  intro f hf hblank
  rcases List.mem_cons.mp hf with rfl | hf
  · revert hblank
    decide
  · have hspace : isBlank ' ' = true := by decide
    obtain ⟨s, hs, hmem⟩ := (mem_arguments_iff hspace i).mp ⟨f, hf, hblank⟩
    exact h s hs hmem

theorem read32_decimal (n : UInt32) : Command.read32 (toString n) = some n := by
  rw [Command.read32, toList_decimal, readBelow_toDigits n.toNat_lt]
  simp

theorem readOutputDir_text {dir : Option Path} (h : dir ≠ some ⟨"!"⟩) :
    Command.readOutputDir ((dir.map Path.text).getD "!") = dir := by
  cases dir with
  | none => rfl
  | some d =>
    have hd : d.text ≠ "!" := fun hd => h (congrArg (some ∘ Path.mk) hd)
    simp [Command.readOutputDir, hd]

theorem join_eq_mark {fs : List String} (hne : fs ≠ []) (h : ∀ f ∈ fs, ':' ∉ f.toList)
    (hmark : join ':' fs = "!") : fs = ["!"] := by
  calc fs = split ':' (join ':' fs) := (split_join hne h).symm
    _ = ["!"] := by rw [hmark]; rfl

theorem readLibraries_text {ls : List Path} (h : ∀ l ∈ ls, ':' ∉ l.text.toList)
    (hmark : ls ≠ [⟨"!"⟩]) :
    Command.readLibraries (if ls.isEmpty then "!" else join ':' (ls.map Path.text)) = ls := by
  by_cases hls : ls.isEmpty = true
  · rw [if_pos hls, List.isEmpty_iff.mp hls]
    rfl
  · have hne : ls.map Path.text ≠ [] := by simpa using hls
    have hcolon : ∀ f ∈ ls.map Path.text, ':' ∉ f.toList := List.forall_mem_map.mpr h
    have hback : (ls.map Path.text).map Path.mk = ls := by
      rw [List.map_map]
      exact List.map_id ls
    have hjoin : join ':' (ls.map Path.text) ≠ "!" := by
      intro hj
      apply hmark
      rw [← hback, join_eq_mark hne hcolon hj]
      rfl
    rw [if_neg hls, Command.readLibraries, if_neg hjoin, split_join hne hcolon, hback]

theorem invocation?_command (h : i.Readable) : i.command.invocation? = some i := by
  obtain ⟨hspace, hdir, hcolon, hlib⟩ := h
  rw [Command.invocation?, split_command hspace]
  simp only [arguments, read32_decimal, Named.ofName?_name, readOutputDir_text hdir,
    readLibraries_text hcolon hlib, Option.bind_eq_bind, Option.bind_some, Option.pure_def]

/-! ### What can be read -/

theorem readLibraries_ne_mark (field : String) : Command.readLibraries field ≠ [⟨"!"⟩] := by
  intro h
  rw [Command.readLibraries] at h
  by_cases hmark : field = "!"
  · simp [hmark] at h
  · -- a single library takes up its whole field
    rw [if_neg hmark] at h
    have hsplit : split ':' field = ["!"] := by
      simpa using congrArg (List.map Path.text) h
    apply hmark
    rw [← @join_split ':' field, hsplit]
    rfl

theorem readOutputDir_ne_mark (field : String) : Command.readOutputDir field ≠ some ⟨"!"⟩ := by
  rw [Command.readOutputDir]
  by_cases hmark : field = "!" <;> simp [hmark]

theorem text_of_mem_readOutputDir {field : String} {d : Path}
    (h : d ∈ (Command.readOutputDir field).toList) : d.text = field := by
  rw [Command.readOutputDir] at h
  split at h
  · cases h
  · rw [List.mem_singleton.mp h]

theorem mem_split_of_mem_readLibraries {field : String} {l : Path}
    (h : l ∈ Command.readLibraries field) : l.text ∈ split ':' field := by
  rw [Command.readLibraries] at h
  split at h
  · cases h
  · obtain ⟨s, hs, rfl⟩ := List.mem_map.mp h
    exact hs

/-- Whatever command it is read from, an invocation has no text that its own command would lose. -/
theorem readable_of_invocation? {c : Command} (h : c.invocation? = some i) : i.Readable := by
  rw [Command.invocation?] at h
  split at h
  · next codePath uid packageName isa outputDir flags filter libraries hfields =>
    have hspace : ∀ f ∈ split ' ' c.text, ' ' ∉ f.toList := fun f => not_mem_of_mem_split
    rw [hfields] at hspace
    simp only [Option.bind_eq_bind, Option.bind_eq_some_iff, Option.pure_def,
      Option.some.injEq] at h
    obtain ⟨uid', -, isa', -, flags', -, filter', -, rfl⟩ := h
    refine ⟨?_, readOutputDir_ne_mark outputDir, ?_, readLibraries_ne_mark libraries⟩
    · intro s hs
      simp only [texts, List.cons_append, List.nil_append, List.mem_cons, List.mem_map,
        List.mem_append] at hs
      rcases hs with rfl | rfl | ⟨d, hd | hd, rfl⟩
      · exact hspace _ (by simp)
      · exact hspace _ (by simp)
      · rw [text_of_mem_readOutputDir hd]
        exact hspace _ (by simp)
      · intro hmem
        have hlib : ' ' ∈ libraries.toList :=
          mem_of_mem_split (by decide) (mem_split_of_mem_readLibraries hd) hmem
        exact hspace libraries (by simp) hlib
    · intro l hl
      exact not_mem_of_mem_split (mem_split_of_mem_readLibraries hl)
  · cases h

/-- A library that holds a colon cannot be told from two libraries. -/
example (i : Invocation) : Invocation.command { i with sharedLibraries := [⟨"a:b"⟩] } =
    Invocation.command { i with sharedLibraries := [⟨"a"⟩, ⟨"b"⟩] } := rfl

end Invocation

/-! ## Paths of any bytes -/

namespace InvocationOver

variable {P Q R : Type}

def paths (i : InvocationOver P) : List P :=
  i.codePath :: (i.outputDir.toList ++ i.sharedLibraries)

theorem map_map (f : P → Q) (g : Q → R) (i : InvocationOver P) :
    (i.map f).map g = i.map (g ∘ f) := by
  simp [map]

theorem map_eq_self_iff {f : P → P} {i : InvocationOver P} :
    i.map f = i ↔ ∀ p ∈ i.paths, f p = p := by
  obtain ⟨codePath, uid, packageName, isa, outputDir, flags, filter, libraries⟩ := i
  have hlibraries : libraries.map f = libraries ↔ ∀ l ∈ libraries, f l = l := by
    have hmap := List.map_inj_left (f := f) (g := id) (l := libraries)
    rwa [List.map_id] at hmap
  have houtputDir : outputDir.map f = outputDir ↔ ∀ d ∈ outputDir.toList, f d = d := by
    cases outputDir <;> simp
  simp only [map, mk.injEq, true_and, paths, List.forall_mem_cons, List.forall_mem_append,
    hlibraries, houtputDir]

theorem mem_paths_map {f : P → Q} {i : InvocationOver P} {q : Q} (h : q ∈ (i.map f).paths) :
    ∃ p, f p = q := by
  have hpaths : (i.map f).paths = i.paths.map f := by
    simp only [map, paths, List.map_cons, List.map_append]
    cases i.outputDir <;> rfl
  rw [hpaths] at h
  obtain ⟨p, -, hp⟩ := List.mem_map.mp h
  exact ⟨p, hp⟩

end InvocationOver

namespace RawInvocation

open InvocationOver

variable {i : RawInvocation}

/-- What is shown of the invocation is readable. -/
def Readable (i : RawInvocation) : Prop := Invocation.Readable (i.map OsText.toPath)
deriving Decidable

theorem map_ofPath_iff :
    (i.map OsText.toPath).map OsText.ofPath = i ↔ ∀ o ∈ i.paths, o.IsText := by
  rw [map_map, map_eq_self_iff]
  exact forall₂_congr fun o _ => OsText.isText_iff.symm

theorem map_toPath (i : Invocation) : (i.map OsText.ofPath).map OsText.toPath = i := by
  rw [map_map, map_eq_self_iff]
  intro p _
  rw [Function.comp_apply, OsText.toPath, OsText.ofPath, OsText.shown_ofText]

/-- What is read is text. -/
theorem isText_of_rawInvocation? {c : Command} (h : c.rawInvocation? = some i) :
    ∀ o ∈ i.paths, o.IsText := by
  obtain ⟨j, -, rfl⟩ := Option.map_eq_some_iff.mp h
  intro o ho
  obtain ⟨p, rfl⟩ := mem_paths_map ho
  exact ⟨p.text, rfl⟩

theorem rawInvocation?_command (h : i.Readable) (htext : ∀ o ∈ i.paths, o.IsText) :
    i.command.rawInvocation? = some i := by
  rw [Command.rawInvocation?, command, Invocation.invocation?_command h]
  exact congrArg some (map_ofPath_iff.mpr htext)

/-- An invocation comes back from its command, every text in its own spelling, exactly if it is
readable and its paths are text; so no two of these share a command. -/
theorem reads_back_iff_readable :
    (∀ i : RawInvocation, i.command.rawInvocation? = some i ↔
      i.Readable ∧ ∀ o ∈ i.paths, o.IsText) ∧
    Set.InjOn command {i | i.Readable ∧ ∀ o ∈ i.paths, o.IsText} := by
  constructor
  · intro i
    refine ⟨fun h => ⟨?_, isText_of_rawInvocation? h⟩, fun h => rawInvocation?_command h.1 h.2⟩
    obtain ⟨j, hj, rfl⟩ := Option.map_eq_some_iff.mp h
    rw [Readable, map_toPath]
    exact Invocation.readable_of_invocation? hj
  · intro i hi j hj hcommand
    have hread : some i = some j := by
      rw [← rawInvocation?_command hi.1 hi.2, hcommand, rawInvocation?_command hj.1 hj.2]
    exact Option.some.inj hread

/-- No text of these holds a separator, but what is not text is written alike. -/
theorem command_eq_of_not_isText :
    let i : RawInvocation := {
      codePath := ⟨[0x2F, 0x61, 0xFF]⟩, uid := 0, packageName := "a", instructionSet := .arm64
      outputDir := none, flags := ⟨0⟩, filter := .speed, sharedLibraries := [] }
    let j : RawInvocation := { i with codePath := ⟨[0x2F, 0x61, 0xFE]⟩ }
    i.Readable ∧ j.Readable ∧ i ≠ j ∧ i.command = j.command ∧
      i.command.rawInvocation? ≠ some i := by
  intro i j
  have hi : ¬ (⟨[0x2F, 0x61, 0xFF]⟩ : OsText).IsText := by
    rw [OsText.isText_iff]
    decide
  refine ⟨by decide, by decide, by decide, by decide, fun h => hi ?_⟩
  exact isText_of_rawInvocation? h _ List.mem_cons_self

end RawInvocation

end OtaCompile
