import Mathlib.Data.List.Basic
import OtaCompile.Text.Blank
import OtaCompile.Text.Decimal
import OtaCompile.Text.Fields

/-!
# Texts put together and taken apart

A number is read back from its decimal digits (`readBelow_toDigits`).  Joining texts at a separator
adds no other character (`mem_join_iff`), and cutting leaves no separator (`not_mem_of_mem_split`).
The words of texts that are joined by spaces are the words of each of them (`words_join`), so texts
come out of a joined text unchanged exactly if each is one word (`words_join_eq_self_iff`).
-/

namespace OtaCompile.Text

/-! ## Numbers -/

theorem all_isDigit_toDigits (n : Nat) : ∀ c ∈ Nat.toDigits 10 n, isDigit c = true :=
  fun _ hc => Nat.isDigit_of_mem_toDigits (by omega) (by omega) hc

theorem digitsValue_toDigits (n : Nat) : digitsValue (Nat.toDigits 10 n) = n :=
  Nat.ofDigitChars_ten_toDigits

theorem readBelow_toDigits {bound n : Nat} (h : n < bound) :
    readBelow bound (Nat.toDigits 10 n) = some n := by
  have hdigits : (Nat.toDigits 10 n).all isDigit = true :=
    List.all_eq_true.mpr (all_isDigit_toDigits n)
  have hsome : (Nat.toDigits 10 n).isEmpty = false :=
    List.isEmpty_eq_false_iff.mpr Nat.toDigits_ne_nil
  simp [readBelow, hdigits, digitsValue_toDigits, hsome, h]

/-! ## Fields -/

section Fields

variable {sep c : Char}

theorem mem_joined_iff (hc : c ≠ sep) (fs : List (List Char)) :
    c ∈ joined sep fs ↔ ∃ f ∈ fs, c ∈ f := by
  induction fs with
  | nil => simp [joined]
  | cons f fs ih =>
    cases fs with
    | nil => simp
    | cons g gs =>
      have hrest : c ∈ joined sep (g :: gs) ↔ ∃ f ∈ g :: gs, c ∈ f := ih
      rw [joined_cons (by simp), List.mem_append, List.mem_cons, hrest, or_iff_right hc]
      simp only [List.mem_cons, exists_eq_or_imp]

theorem mem_join_iff (hc : c ≠ sep) (fs : List String) :
    c ∈ (join sep fs).toList ↔ ∃ f ∈ fs, c ∈ f.toList := by
  rw [join, String.toList_ofList, mem_joined_iff hc]
  simp only [List.mem_map, exists_exists_and_eq_and]

theorem join_eq_empty_iff (fs : List String) : join sep fs = "" ↔ fs = [] ∨ fs = [""] := by
  rcases fs with _ | ⟨f, _ | ⟨g, gs⟩⟩
  · simp [join, joined]
  · simp [join]
  · simp [join, joined]

theorem not_mem_of_mem_split {s f : String} (h : f ∈ split sep s) : sep ∉ f.toList := by
  obtain ⟨g, hg, rfl⟩ := List.mem_map.mp h
  rw [String.toList_ofList]
  exact not_mem_of_mem_fields hg

/-- A field has no character that the text does not have. -/
theorem mem_of_mem_split (hc : c ≠ sep) {s f : String} (h : f ∈ split sep s) (hf : c ∈ f.toList) :
    c ∈ s.toList := by
  rw [← @join_split sep s, mem_join_iff hc]
  exact ⟨f, h, hf⟩

theorem fields_append (s u : List Char) :
    fields sep (s ++ sep :: u) = fields sep s ++ fields sep u := by
  induction s with
  | nil => exact fields_sep u
  | cons c s ih =>
    by_cases hc : c = sep
    · subst hc
      rw [List.cons_append, fields_sep, fields_sep, ih, List.cons_append]
    · obtain ⟨f, fs, hfields, hcons⟩ := fields_cons_of_ne hc s
      obtain ⟨g, gs, hfields', hcons'⟩ := fields_cons_of_ne hc (s ++ sep :: u)
      rw [ih, hfields, List.cons_append] at hfields'
      obtain ⟨rfl, rfl⟩ := List.cons.inj hfields'
      rw [List.cons_append, hcons', hcons, List.cons_append]

theorem split_of_not_mem {s : String} (h : sep ∉ s.toList) : split sep s = [s] := by
  rw [split, fields_of_not_mem h, List.map_singleton, String.ofList_toList]

/-- What a separator stands between is cut apart there. -/
theorem split_append {s u v : String} (h : s.toList = u.toList ++ sep :: v.toList) :
    split sep s = split sep u ++ split sep v := by
  rw [split, h, fields_append, List.map_append]
  rfl

end Fields

/-! ## Words -/

def NoBlank (s : String) : Prop := ∀ c ∈ s.toList, isBlank c = false

instance : DecidablePred NoBlank := fun s => List.decidableBAll _ s.toList

/-- A text that is one word, and nothing else. -/
def IsWord (s : String) : Prop := s ≠ "" ∧ NoBlank s
deriving Decidable

theorem noBlank_append {s t : String} : NoBlank (s ++ t) ↔ NoBlank s ∧ NoBlank t := by
  simp only [NoBlank, String.toList_append, List.forall_mem_append]

theorem not_mem_of_noBlank {c : Char} (hc : isBlank c = true) {s : String} (h : NoBlank s) :
    c ∉ s.toList := by
  intro hmem
  simp [h c hmem] at hc

theorem isBlank_of_isDigit {c : Char} (h : c.isDigit = true) : isBlank c = false := by
  have hrange : 48 ≤ c.toNat ∧ c.toNat ≤ 57 := Char.isDigit_iff_toNat.mp h
  simp [isBlank, blanks, CharSet.contains]
  omega

/-- Texts are without blanks if no blank is in any of them. -/
theorem forall_noBlank_iff (fs : List String) :
    (∀ f ∈ fs, NoBlank f) ↔ ∀ c, isBlank c = true → ¬ ∃ f ∈ fs, c ∈ f.toList := by
  constructor
  · rintro h c hc ⟨f, hf, hmem⟩
    exact not_mem_of_noBlank hc (h f hf) hmem
  · intro h f hf c hmem
    by_contra hblank
    exact h c (by simpa using hblank) ⟨f, hf, hmem⟩

/-- A blank ends a word, and no word goes on behind it. -/
theorem wordsAfter_append {c : Char} (hc : isBlank c = true) (word cs ds : List Char) :
    wordsAfter word (cs ++ c :: ds) = wordsAfter word cs ++ wordsAfter [] ds := by
  induction cs generalizing word with
  | nil =>
    simp only [List.nil_append, wordsAfter, hc, if_true]
    split <;> rfl
  | cons d cs ih =>
    rw [List.cons_append, wordsAfter, wordsAfter]
    by_cases hd : isBlank d = true
    · rw [if_pos hd, if_pos hd, ih]
      split <;> rfl
    · rw [if_neg hd, if_neg hd, ih]

/-- With no blank to come, the word that is being read goes on to the end. -/
theorem wordsAfter_of_noBlank {cs : List Char} (h : ∀ c ∈ cs, isBlank c = false)
    (word : List Char) (hne : word.reverse ++ cs ≠ []) :
    wordsAfter word cs = [word.reverse ++ cs] := by
  induction cs generalizing word with
  | nil =>
    have hword : word.isEmpty = false := by simpa using hne
    simp [wordsAfter, hword]
  | cons c cs ih =>
    have hc : isBlank c = false := h c List.mem_cons_self
    have hcs : ∀ d ∈ cs, isBlank d = false := fun d hd => h d (List.mem_cons_of_mem c hd)
    rw [wordsAfter, hc, if_neg Bool.false_ne_true, ih hcs (c :: word) (by simp)]
    simp

theorem noBlank_of_mem_wordsAfter {word cs w : List Char} (hword : ∀ c ∈ word, isBlank c = false)
    (h : w ∈ wordsAfter word cs) : w ≠ [] ∧ ∀ c ∈ w, isBlank c = false := by
  have hread : word.isEmpty = false → word.reverse ≠ [] ∧ ∀ c ∈ word.reverse, isBlank c = false :=
    fun hne => ⟨by simpa using hne, fun c hc => hword c (List.mem_reverse.mp hc)⟩
  induction cs generalizing word with
  | nil =>
    rw [wordsAfter] at h
    split at h
    · cases h
    · next hne =>
      rw [List.mem_singleton.mp h]
      exact hread (Bool.eq_false_iff.mpr hne)
  | cons d cs ih =>
    have hnone : ∀ c ∈ ([] : List Char), isBlank c = false := List.forall_mem_nil _
    rw [wordsAfter] at h
    split at h
    · split at h
      · exact ih hnone h nofun
      · next hne =>
        rcases List.mem_cons.mp h with rfl | h
        · exact hread (Bool.eq_false_iff.mpr hne)
        · exact ih hnone h nofun
    · next hd =>
      have hlonger : ∀ c ∈ d :: word, isBlank c = false :=
        List.forall_mem_cons.mpr ⟨Bool.eq_false_iff.mpr hd, hword⟩
      refine ih hlonger h fun _ => ⟨by simp, fun c hc => hlonger c (List.mem_reverse.mp hc)⟩

theorem isWord_of_mem_words {s w : String} (h : w ∈ words s) : IsWord w := by
  obtain ⟨cs, hcs, rfl⟩ := List.mem_map.mp h
  obtain ⟨hne, hblank⟩ := noBlank_of_mem_wordsAfter (List.forall_mem_nil _) hcs
  refine ⟨?_, ?_⟩
  · simpa using hne
  · simpa [NoBlank] using hblank

theorem words_of_isWord {s : String} (h : IsWord s) : words s = [s] := by
  have hne : s.toList ≠ [] := by simpa using h.1
  rw [words, wordsAfter_of_noBlank h.2 [] (by simpa using hne)]
  simp

/-- The words of texts joined by spaces are the words of each. -/
theorem words_join (fs : List String) : words (join ' ' fs) = fs.flatMap words := by
  induction fs with
  | nil => rfl
  | cons f fs ih =>
    cases fs with
    | nil => simp [join]
    | cons g gs =>
      have hspace : isBlank ' ' = true := by decide
      rw [List.flatMap_cons, ← ih, words, words, words, join, join, String.toList_ofList,
        String.toList_ofList, List.map_cons, joined_cons (by simp), wordsAfter_append hspace,
        List.map_append]

/-- Texts come out of a joined text unchanged if each is one word, and only then. -/
theorem words_join_eq_self_iff (fs : List String) :
    words (join ' ' fs) = fs ↔ ∀ f ∈ fs, IsWord f := by
  constructor
  · intro h f hf
    rw [← h] at hf
    exact isWord_of_mem_words hf
  · intro h
    calc words (join ' ' fs) = fs.flatMap words := words_join fs
      _ = fs.flatMap fun f => [f] := List.flatMap_congr fun f hf => words_of_isWord (h f hf)
      _ = fs := List.flatMap_singleton' fs

end OtaCompile.Text
