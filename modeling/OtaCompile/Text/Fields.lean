/-!
# Text as fields between separators

`fields sep s` cuts a text at every `sep`, keeping empty fields; `joined sep fs` puts the separator
back.  Joining undoes cutting (`joined_fields`), and cutting undoes joining for at least one field
none of which holds the separator (`fields_joined`).
-/

namespace OtaCompile.Text

def fields (sep : Char) : List Char → List (List Char)
  | [] => [[]]
  | c :: cs =>
    if c = sep then [] :: fields sep cs
    else match fields sep cs with
      | [] => [[c]]
      | f :: fs => (c :: f) :: fs

def joined (sep : Char) : List (List Char) → List Char
  | [] => []
  | [f] => f
  | f :: fs => f ++ sep :: joined sep fs

variable {sep : Char}

@[simp] theorem fields_nil : fields sep [] = [[]] := rfl

@[simp] theorem fields_sep (cs : List Char) : fields sep (sep :: cs) = [] :: fields sep cs := by
  simp [fields]

theorem fields_ne_nil (s : List Char) : fields sep s ≠ [] := by
  cases s with
  | nil => simp
  | cons c cs => unfold fields; split <;> (try split) <;> simp

theorem fields_cons_of_ne {c : Char} (h : c ≠ sep) (cs : List Char) :
    ∃ f fs, fields sep cs = f :: fs ∧ fields sep (c :: cs) = (c :: f) :: fs := by
  cases hf : fields sep cs with
  | nil => exact absurd hf (fields_ne_nil cs)
  | cons f fs => exact ⟨f, fs, rfl, by simp [fields, h, hf]⟩

@[simp] theorem joined_singleton (f : List Char) : joined sep [f] = f := rfl

theorem joined_cons {fs : List (List Char)} (h : fs ≠ []) (f : List Char) :
    joined sep (f :: fs) = f ++ sep :: joined sep fs := by
  cases fs with
  | nil => exact absurd rfl h
  | cons g gs => rfl

theorem joined_cons_head (c : Char) (f : List Char) (fs : List (List Char)) :
    joined sep ((c :: f) :: fs) = c :: joined sep (f :: fs) := by
  cases fs <;> rfl

theorem joined_fields (s : List Char) : joined sep (fields sep s) = s := by
  induction s with
  | nil => rfl
  | cons c cs ih =>
    by_cases h : c = sep
    · subst h
      rw [fields_sep, joined_cons (fields_ne_nil cs), ih]
      rfl
    · obtain ⟨f, fs, hf, hc⟩ := fields_cons_of_ne h cs
      rw [hc, joined_cons_head, ← hf, ih]

theorem fields_of_not_mem {s : List Char} (h : sep ∉ s) : fields sep s = [s] := by
  induction s with
  | nil => rfl
  | cons c cs ih =>
    simp only [List.mem_cons, not_or] at h
    simp [fields, Ne.symm h.1, ih h.2]

theorem not_mem_of_mem_fields {s f : List Char} (h : f ∈ fields sep s) : sep ∉ f := by
  induction s generalizing f with
  | nil => simp_all
  | cons c cs ih =>
    by_cases hc : c = sep
    · subst hc
      rw [fields_sep] at h
      rcases List.mem_cons.mp h with rfl | h
      · exact List.not_mem_nil
      · exact ih h
    · obtain ⟨g, gs, hg, hcons⟩ := fields_cons_of_ne hc cs
      rw [hcons] at h
      rw [hg] at ih
      rcases List.mem_cons.mp h with rfl | h
      · exact List.not_mem_cons_of_ne_of_not_mem (Ne.symm hc) (ih List.mem_cons_self)
      · exact ih (List.mem_cons_of_mem _ h)

theorem fields_append_sep {f : List Char} (h : sep ∉ f) (s : List Char) :
    fields sep (f ++ sep :: s) = f :: fields sep s := by
  induction f with
  | nil => exact fields_sep s
  | cons c cs ih =>
    simp only [List.mem_cons, not_or] at h
    simp [fields, Ne.symm h.1, ih h.2]

theorem fields_joined {fs : List (List Char)} (hne : fs ≠ []) (h : ∀ f ∈ fs, sep ∉ f) :
    fields sep (joined sep fs) = fs := by
  induction fs with
  | nil => exact absurd rfl hne
  | cons f fs ih =>
    cases fs with
    | nil => exact fields_of_not_mem (h f (by simp))
    | cons g gs =>
      rw [joined_cons (by simp), fields_append_sep (h f (by simp)),
        ih (by simp) fun x hx => h x (List.mem_cons_of_mem _ hx)]

/-! ### On strings -/

def split (sep : Char) (s : String) : List String := (fields sep s.toList).map String.ofList

def join (sep : Char) (fs : List String) : String :=
  String.ofList (joined sep (fs.map String.toList))

theorem join_split (s : String) : join sep (split sep s) = s := by
  simp [join, split, Function.comp_def, joined_fields]

theorem split_join {fs : List String} (hne : fs ≠ []) (h : ∀ f ∈ fs, sep ∉ f.toList) :
    split sep (join sep fs) = fs := by
  have h' : ∀ f ∈ fs.map String.toList, sep ∉ f := by simpa using h
  simp [join, split, fields_joined (by simpa using hne) h', Function.comp_def]

end OtaCompile.Text
