import OtaCompile.Host.Helper
import OtaCompile.Proofs.Command
import OtaCompile.Proofs.Relocation
import OtaCompile.Registry

/-!
# What the helper program is given

To execute an invocation the helper is run with the words of its command (`Host.asked_execute`),
which are the words of its fields (`Invocation.words_command`).  A field that is not exactly one
word does not reach the program as it is: it is cut at its blanks, and vanishes if it is empty.
Only the free texts can be so (`Invocation.plain_iff`), and the standard policy takes them from the
package (`Package.plain_invocation_iff`).  So it is the package that decides whether the program
gets what it is meant to get (`Host.helper_gets_fields_iff`).
-/

namespace OtaCompile

open Text

/-! ## Invocations -/

namespace Invocation

/-- There is no blank in a free text of the invocation, and no field is empty. -/
def Plain (i : Invocation) : Prop :=
  (∀ s ∈ i.texts, NoBlank s) ∧ i.codePath.text ≠ "" ∧ i.packageName ≠ "" ∧
    i.outputDir ≠ some ⟨""⟩ ∧ i.sharedLibraries ≠ [⟨""⟩]
deriving Decidable

theorem arguments_noBlank_iff (i : Invocation) :
    (∀ f ∈ i.arguments, NoBlank f) ↔ ∀ s ∈ i.texts, NoBlank s := by
  rw [forall_noBlank_iff, forall_noBlank_iff]
  exact forall_congr' fun c => imp_congr_right fun hc => not_congr (mem_arguments_iff hc i)

theorem decimal_ne_empty (n : UInt32) : toString n ≠ "" := by
  intro h
  have hdigits : Nat.toDigits 10 n.toNat = [] := by rw [← toList_decimal, h]; rfl
  exact Nat.toDigits_ne_nil hdigits

theorem instructionSet_ne_empty (isa : InstructionSet) : Named.name isa ≠ "" := by
  cases isa <;> decide

theorem filter_ne_empty (f : Compiler.Filter) : Named.name f ≠ "" := by
  cases f <;> decide

theorem outputDir_eq_empty_iff (dir : Option Path) :
    (dir.map Path.text).getD "!" = "" ↔ dir = some ⟨""⟩ := by
  cases dir with
  | none => simp
  | some d =>
    cases d
    simp

theorem libraries_eq_empty_iff (ls : List Path) :
    (if ls.isEmpty then "!" else join ':' (ls.map Path.text)) = "" ↔ ls = [⟨""⟩] := by
  by_cases hls : ls.isEmpty = true
  · rw [if_pos hls, List.isEmpty_iff.mp hls]
    simp
  · have hne : ls ≠ [] := by simpa using hls
    rw [if_neg hls, join_eq_empty_iff]
    constructor
    · rintro (h | h)
      · exact absurd (List.map_eq_nil_iff.mp h) hne
      · obtain ⟨l, rfl, hl⟩ := List.map_eq_singleton_iff.mp h
        rw [← hl]
    · rintro rfl
      exact .inr rfl

theorem arguments_ne_empty_iff (i : Invocation) :
    (∀ f ∈ i.arguments, f ≠ "") ↔ i.codePath.text ≠ "" ∧ i.packageName ≠ "" ∧
      i.outputDir ≠ some ⟨""⟩ ∧ i.sharedLibraries ≠ [⟨""⟩] := by
  simp only [arguments, List.forall_mem_cons, List.not_mem_nil, false_implies, implies_true,
    and_true, ne_eq, decimal_ne_empty, instructionSet_ne_empty, filter_ne_empty,
    outputDir_eq_empty_iff, libraries_eq_empty_iff, not_false_eq_true, true_and]

theorem plain_iff (i : Invocation) : i.Plain ↔ ∀ f ∈ i.arguments, IsWord f := by
  have hsplit : (∀ f ∈ i.arguments, IsWord f) ↔
      (∀ f ∈ i.arguments, NoBlank f) ∧ ∀ f ∈ i.arguments, f ≠ "" :=
    ⟨fun h => ⟨fun f hf => (h f hf).2, fun f hf => (h f hf).1⟩,
      fun h f hf => ⟨h.2 f hf, h.1 f hf⟩⟩
  rw [hsplit, arguments_noBlank_iff, arguments_ne_empty_iff]
  rfl

theorem words_command (i : Invocation) :
    words i.command.text = "dexopt" :: i.arguments.flatMap words := by
  have hword : words "dexopt" = ["dexopt"] := words_of_isWord (by decide)
  rw [command, words_join, List.flatMap_cons, hword]
  rfl

theorem words_command_eq_iff (i : Invocation) :
    words i.command.text = "dexopt" :: i.arguments ↔ i.Plain := by
  rw [command, words_join_eq_self_iff, List.forall_mem_cons, plain_iff]
  exact and_iff_right (by decide)

end Invocation

/-! ## Packages -/

theorem Path.text_join {p q : Path} (hq : q.isAbsolute = false) :
    (p.join q).text = p.text ++ q.text ∨ (p.join q).text = p.text ++ "/" ++ q.text := by
  rw [join, hq, if_neg Bool.false_ne_true]
  split
  · exact .inl rfl
  · exact .inr rfl

namespace Package

variable {p : Package}

/-- The name and every code path are one word each, no other text of the package has a blank, and
no empty library stands alone. -/
def Plain (p : Package) : Prop :=
  IsWord p.name ∧ (∀ path ∈ p.codePaths, IsWord path.text) ∧
    (∀ path ∈ p.installDir.toList ++ p.sharedLibraries, NoBlank path.text) ∧
    p.sharedLibraries ≠ [⟨""⟩]
deriving Decidable

theorem artifactDir_noBlank_iff (dir : Path) :
    NoBlank (dir.join ⟨"oat"⟩).text ↔ NoBlank dir.text := by
  have hoat : NoBlank "oat" := by decide
  have hslash : NoBlank "/" := by decide
  rcases Path.text_join (p := dir) (q := ⟨"oat"⟩) (by decide) with h | h
  · rw [h, noBlank_append]
    exact and_iff_left hoat
  · rw [h, noBlank_append, noBlank_append]
    exact (and_iff_left hoat).trans (and_iff_left hslash)

theorem artifactDir_ne_empty (p : Package) : p.artifactDir ≠ some ⟨""⟩ := by
  intro h
  obtain ⟨dir, -, hdir⟩ := Option.map_eq_some_iff.mp h
  have hempty : (dir.join ⟨"oat"⟩).text = "" := congrArg Path.text hdir
  rcases Path.text_join (p := dir) (q := ⟨"oat"⟩) (by decide) with h | h
  · simp [h] at hempty
  · simp [h] at hempty

theorem plain_invocation_iff (options : CompileOptions) (isa : InstructionSet) (codePath : Path) :
    (StandardPolicy.invocation p options isa codePath).Plain ↔
      IsWord codePath.text ∧ IsWord p.name ∧
        (∀ path ∈ p.installDir.toList ++ p.sharedLibraries, NoBlank path.text) ∧
        p.sharedLibraries ≠ [⟨""⟩] := by
  have hdir : (∀ path ∈ p.artifactDir.toList, NoBlank path.text) ↔
      ∀ path ∈ p.installDir.toList, NoBlank path.text := by
    cases h : p.installDir with
    | none => simp [artifactDir, h]
    | some dir => simpa [artifactDir, h] using artifactDir_noBlank_iff dir
  simp only [Invocation.Plain, Invocation.texts, StandardPolicy.invocation, List.forall_mem_append,
    List.forall_mem_cons, List.not_mem_nil, false_implies, implies_true, List.forall_mem_map,
    and_true, hdir, ne_eq, artifactDir_ne_empty p, not_false_eq_true, true_and, IsWord]
  tauto

theorem exists_mem_dexCode (p : Package) (s : StandardPolicy) :
    ∃ isa, isa ∈ s.translation.dexCode (p.instructionSetsOr s.defaultIsa) := by
  have hne : p.instructionSetsOr s.defaultIsa ≠ [] := by
    rw [instructionSetsOr]
    split
    · exact List.cons_ne_nil _ _
    · next h => simpa using h
  obtain ⟨isa, hisa⟩ := List.exists_mem_of_ne_nil _ hne
  refine ⟨s.translation.apply isa, ?_⟩
  rw [Translation.mem_dexCode]
  exact List.mem_map_of_mem hisa

/-- All that the standard policy has executed for a package is plain as soon as the package is. -/
theorem plain_work_iff (s : StandardPolicy) (options : CompileOptions) :
    (∀ i ∈ s.work p options, i.Plain) ↔ (p.Compilable → p.Plain) := by
  rw [StandardPolicy.work]
  by_cases hcode : p.canOptimize = true
  · have hcompilable : p.Compilable := (canOptimize_iff p).mp hcode
    obtain ⟨isa, hisa⟩ := p.exists_mem_dexCode s
    obtain ⟨base, hbase⟩ := List.exists_mem_of_ne_nil _ hcompilable.2
    rw [if_pos hcode]
    simp only [StandardPolicy.invocations, List.forall_mem_flatMap, List.forall_mem_map,
      plain_invocation_iff]
    constructor
    · intro h _
      obtain ⟨-, hname, hdirs, hlibs⟩ := h isa hisa base hbase
      exact ⟨hname, fun path hpath => (h isa hisa path hpath).1, hdirs, hlibs⟩
    · intro h isa' _ path hpath
      obtain ⟨hname, hpaths, hdirs, hlibs⟩ := h hcompilable
      exact ⟨hpaths path hpath, hname, hdirs, hlibs⟩
  · have hnot : ¬ p.Compilable := fun h => hcode ((canOptimize_iff p).mpr h)
    rw [if_neg hcode]
    exact iff_of_true (List.forall_mem_nil _) fun h => absurd h hnot

end Package

/-! ## The program -/

namespace Host

variable {σ : Type} (program : Path) (answer : (q : Request) → σ → Reply q × σ) (x : σ)

theorem asked_execute (i : Invocation) :
    (helperAnswer program (.execute i)).asked answer x =
      [.spawn program (words i.command.text)] := by
  rw [helperAnswer, runFor, runHelper, Dialogue.question_bind, Dialogue.ask_bind,
    Dialogue.asked_ask]
  cases (answer (.spawn program (words i.command.text)) x).1 with
  | error f => rfl
  | ok code => rfl

/-- The program is run once for an invocation, with the leading word and the words of every field.
Every field is one argument with its text unchanged exactly if the invocation is plain; and this is
so for all that the standard policy has executed for a package exactly if the package is plain,
unless there is nothing to compile. -/
theorem helper_gets_fields_iff :
    (∀ i : Invocation, (helperAnswer program (.execute i)).asked answer x =
        [.spawn program ("dexopt" :: i.arguments.flatMap words)]) ∧
      (∀ i : Invocation, (helperAnswer program (.execute i)).asked answer x =
        [.spawn program ("dexopt" :: i.arguments)] ↔ i.Plain) ∧
      ∀ (s : StandardPolicy) (p : Package) (options : CompileOptions),
        (∀ i ∈ s.work p options, (helperAnswer program (.execute i)).asked answer x =
          [.spawn program ("dexopt" :: i.arguments)]) ↔ (p.Compilable → p.Plain) := by
  have hplain : ∀ i : Invocation, (helperAnswer program (.execute i)).asked answer x =
      [.spawn program ("dexopt" :: i.arguments)] ↔ i.Plain := by
    intro i
    rw [asked_execute, ← i.words_command_eq_iff]
    simp
  refine ⟨?_, hplain, ?_⟩
  · intro i
    rw [asked_execute, i.words_command]
  · intro s p options
    simp only [hplain]
    exact Package.plain_work_iff s options

/-- A package with a space in its code path. -/
def spaced : Package :=
  { name := "maps", codePaths := [⟨"app/my maps/base.apk"⟩], instructionSets := [.arm64] }

/-- The code path and the directory made of it are cut, so that the program gets eleven arguments
for the nine fields. -/
theorem helper_cuts_fields :
    let p := spaced.withDefaultInstallDir
    let i : Invocation :=
      { codePath := ⟨"app/my maps/base.apk"⟩, uid := 0, packageName := "maps"
        instructionSet := .arm64, outputDir := some ⟨"app/my maps/oat"⟩, flags := ⟨98⟩
        filter := .speedProfile, sharedLibraries := [] }
    Registry.ofManifest [spaced] = .ok ⟨[p], [p]⟩ ∧
      ({} : StandardPolicy).work p ⟨.abOta, .speedProfile, .ota⟩ = [i] ∧
      ∀ (program : Path) (answer : (q : Request) → Unit → Reply q × Unit),
        (helperAnswer program (.execute i)).asked answer () =
            [.spawn program ["dexopt", "app/my", "maps/base.apk", "0", "maps", "arm64", "app/my",
              "maps/oat", "98", "speed-profile", "!"]] ∧
          (helperAnswer program (.execute i)).asked answer () ≠
            [.spawn program ("dexopt" :: i.arguments)] := by
  intro p i
  have hwords : words i.command.text = ["dexopt", "app/my", "maps/base.apk", "0", "maps", "arm64",
      "app/my", "maps/oat", "98", "speed-profile", "!"] := by decide
  have hcut : words i.command.text ≠ "dexopt" :: i.arguments :=
    mt i.words_command_eq_iff.mp (by decide)
  refine ⟨rfl, rfl, ?_⟩
  intro program answer
  rw [asked_execute]
  refine ⟨by rw [hwords], ?_⟩
  simpa using hcut

end Host

end OtaCompile
