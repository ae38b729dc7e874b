import Mathlib.Data.List.Basic
import Mathlib.Data.List.TakeWhile
import OtaCompile.Json.Reader
import OtaCompile.Proofs.Text

/-!
# Values written on one line

A value that is written compactly is read back (`read?_compact`), provided that it is `Plain`: it
has no real numbers, of which only the spelling is known, and no object with two members of one
name, of which only the last would count.  Each part of the reader goes exactly over what the
matching part of the writer has put in front of the rest: over a string up to its closing quote
(`string?_quote`), over a number up to what cannot belong to it (`value?_int`), and so on over items
and members.  A text is never shorter than the fuel that its value takes.
-/

namespace OtaCompile.Json

/-- Values that their text determines: no reals, and no object with two members of one name. -/
inductive Plain : Json → Prop
  | null : Plain .null
  | bool (b : Bool) : Plain (.bool b)
  | int (n : Int) : Plain (.int n)
  | str (s : String) : Plain (.str s)
  | arr {items : List Json} (hitems : ∀ j ∈ items, Plain j) : Plain (.arr items)
  | obj {members : List (String × Json)} (hnames : (members.map Prod.fst).Nodup)
    (hmembers : ∀ m ∈ members, Plain m.2) : Plain (.obj members)

/-! ## Strings -/

theorem hexDigit?_hexDigit : ∀ n < 16, hexDigit? (hexDigit n) = some n := by decide

theorem unit?_hexDigit {n : Nat} (h : n < 256) :
    unit? '0' '0' (hexDigit (n / 16)) (hexDigit (n % 16)) = some n := by
  have hzero : hexDigit? '0' = some 0 := by decide
  have hhigh := hexDigit?_hexDigit (n / 16) (by omega)
  have hlow := hexDigit?_hexDigit (n % 16) (by omega)
  simp only [unit?, hzero, hhigh, hlow, Option.bind_eq_bind, Option.bind_some, Option.pure_def,
    Option.some.injEq]
  omega

theorem charOfUnits?_toNat (c : Char) : charOfUnits? c.toNat none = some c := by
  have hvalid : c.toNat.isValidChar := c.valid
  rw [charOfUnits?, if_pos hvalid, Char.ofNat_toNat]

theorem stringBody?_unit {a b c d : Char} {n : Nat} {x : Char} (hunit : unit? a b c d = some n)
    (hchar : charOfUnits? n none = some x) (done rest : List Char) :
    stringBody? done ('\\' :: 'u' :: a :: b :: c :: d :: rest) = stringBody? (x :: done) rest := by
  -- a unit may be one of two, but this one is a character by itself
  by_cases hpair : ∃ e f g h cs, rest = '\\' :: 'u' :: e :: f :: g :: h :: cs
  · obtain ⟨e, f, g, h, cs, rfl⟩ := hpair
    simp only [stringBody?, hunit, hchar, Option.bind_eq_bind, Option.bind_some]
  · have hlone : ∀ e f g h cs, rest ≠ '\\' :: 'u' :: e :: f :: g :: h :: cs :=
      fun e f g h cs heq => hpair ⟨e, f, g, h, cs, heq⟩
    rw [stringBody?]
    · simp only [hunit, hchar, Option.bind_eq_bind, Option.bind_some]
    · exact hlone

/-- An escaped character is read from what it was written as, and from nothing else. -/
theorem stringBody?_escape (c : Char) (done rest : List Char) :
    stringBody? done (escape c ++ rest) = stringBody? (c :: done) rest := by
  unfold escape
  split
  all_goals try rfl
  next hquote hslash _ _ _ _ _ =>
  split
  · next hcontrol =>
    exact stringBody?_unit (unit?_hexDigit (by omega)) (charOfUnits?_toNat c) done rest
  · next hcontrol =>
    rw [List.singleton_append, stringBody?, if_neg hcontrol]
    -- the other ways to go on begin with a quote or a backslash
    all_goals simp_all

theorem stringBody?_flatMap_escape (cs done rest : List Char) :
    stringBody? done (cs.flatMap escape ++ '"' :: rest) = some (cs.reverse ++ done, rest) := by
  induction cs generalizing done with
  | nil => rw [List.flatMap_nil, List.nil_append, stringBody?]; rfl
  | cons c cs ih =>
    rw [List.flatMap_cons, List.append_assoc, stringBody?_escape, ih, List.reverse_cons,
      List.append_assoc]
    rfl

theorem toList_quote (s : String) :
    (quote s).toList = '"' :: (s.toList.flatMap escape ++ ['"']) := by
  simp [quote]

theorem string?_quote (s : String) (rest : List Char) :
    string? (s.toList.flatMap escape ++ '"' :: rest) = some (s, rest) := by
  rw [string?, stringBody?_flatMap_escape]
  simp

/-! ## Numbers -/

/-- Only zero is written with a zero in front. -/
theorem head?_toDigits {n : Nat} (h : 0 < n) : (Nat.toDigits 10 n).head? ≠ some '0' := by
  induction n using Nat.strongRecOn with
  | _ n ih =>
    by_cases hn : n < 10
    · rw [Nat.toDigits_of_lt_base hn]
      have hdigit : ∀ m < 10, 0 < m → [m.digitChar].head? ≠ some '0' := by decide
      exact hdigit n hn h
    · rw [Nat.toDigits_of_base_le (by omega) (by omega),
        List.head?_append_of_ne_nil _ Nat.toDigits_ne_nil]
      exact ih (n / 10) (by omega) (by omega)

theorem isWhole_toDigits (n : Nat) : isWhole (Nat.toDigits 10 n) = true := by
  have hdigits := Text.all_isDigit_toDigits n
  by_cases hn : n = 0
  · subst hn
    decide
  · have hhead := head?_toDigits (Nat.pos_of_ne_zero hn)
    cases hcs : Nat.toDigits 10 n with
    | nil => exact absurd hcs Nat.toDigits_ne_nil
    | cons c cs =>
      rw [hcs] at hhead hdigits
      have hzero : c ≠ '0' := by simpa using hhead
      rw [isWhole]
      · simpa [hzero] using hdigits
      · simp [hzero]

/-- The characters that an integer is written with. -/
def digits (n : Int) : List Char := (toString n).toList

theorem digits_ofNat (n : Nat) : digits n = Nat.toDigits 10 n := Nat.toList_repr

theorem digits_negSucc (n : Nat) : digits (.negSucc n) = '-' :: Nat.toDigits 10 (n + 1) := by
  show ("-" ++ Nat.repr (n + 1)).toList = _
  simp

theorem takeWhile_toDigits (n : Nat) :
    (Nat.toDigits 10 n).takeWhile Text.isDigit = Nat.toDigits 10 n :=
  List.takeWhile_eq_self_iff.mpr (Text.all_isDigit_toDigits n)

theorem dropWhile_toDigits (n : Nat) : (Nat.toDigits 10 n).dropWhile Text.isDigit = [] :=
  List.dropWhile_eq_nil_iff.mpr (Text.all_isDigit_toDigits n)

theorem toDigits_ne_minus (n : Nat) (cs : List Char) : Nat.toDigits 10 n ≠ '-' :: cs := by
  intro hcs
  have hdigit := Text.all_isDigit_toDigits n '-' (hcs ▸ List.mem_cons_self)
  revert hdigit
  decide

theorem toDigits_eq_zero_iff {n : Nat} : Nat.toDigits 10 n = ['0'] ↔ n = 0 := by
  constructor
  · intro h
    rw [← Text.digitsValue_toDigits n, h]
    rfl
  · rintro rfl
    rfl

theorem ofNumber?_digits (n : Int) : ofNumber? (digits n) = some (int n) := by
  cases n with
  | ofNat n =>
    have hsign := toDigits_ne_minus n
    rw [Int.ofNat_eq_natCast, digits_ofNat]
    unfold ofNumber?
    split
    next heq =>
      split at heq
      · next hcs => exact absurd hcs (hsign _)
      · cases heq
        simp [takeWhile_toDigits, dropWhile_toDigits, isWhole_toDigits, Text.digitsValue_toDigits,
          isFraction, isExponent]
  | negSucc n =>
    have hzero : Nat.toDigits 10 (n + 1) ≠ ['0'] := fun h => by
      have := toDigits_eq_zero_iff.mp h
      omega
    rw [digits_negSucc]
    simp [ofNumber?, takeWhile_toDigits, dropWhile_toDigits, isWhole_toDigits,
      Text.digitsValue_toDigits, isFraction, isExponent, hzero]
    omega

theorem isNumberChar_of_mem_digits {n : Int} {c : Char} (h : c ∈ digits n) :
    isNumberChar c = true := by
  have hdigit : ∀ d, Text.isDigit d = true → isNumberChar d = true := by
    intro d hd
    simp [isNumberChar, hd]
  cases n with
  | ofNat n =>
    rw [Int.ofNat_eq_natCast, digits_ofNat] at h
    exact hdigit c (Text.all_isDigit_toDigits n c h)
  | negSucc n =>
    rw [digits_negSucc] at h
    rcases List.mem_cons.mp h with rfl | h
    · decide
    · exact hdigit c (Text.all_isDigit_toDigits (n + 1) c h)

theorem digits_eq_cons (n : Int) : ∃ c cs, digits n = c :: cs ∧ isNumberChar c = true := by
  cases hcs : digits n with
  | nil =>
    have hread := ofNumber?_digits n
    rw [hcs] at hread
    cases hread
  | cons c cs =>
    have hmem : c ∈ digits n := hcs ▸ List.mem_cons_self
    exact ⟨c, cs, rfl, isNumberChar_of_mem_digits hmem⟩

theorem skipBlanks_cons {c : Char} (h : isBlank c = false) (cs : List Char) :
    skipBlanks (c :: cs) = c :: cs :=
  List.dropWhile_cons_of_neg (by simp [h])

theorem ne_of_isNumberChar {c d : Char} (hc : isNumberChar c = true)
    (hd : isNumberChar d = false) : c ≠ d := by
  rintro rfl
  exact Bool.false_ne_true (hd.symm.trans hc)

theorem isBlank_of_isNumberChar {c : Char} (hc : isNumberChar c = true) : isBlank c = false := by
  have hne {d : Char} (hd : isNumberChar d = false) := ne_of_isNumberChar hc hd
  simp [isBlank, hne (d := ' ') (by decide), hne (d := '\n') (by decide),
    hne (d := '\t') (by decide), hne (d := '\r') (by decide)]

theorem value?_number {c : Char} (hc : isNumberChar c = true) (fuel : Nat) (cs : List Char) :
    value? (fuel + 1) (c :: cs) =
      (ofNumber? ((c :: cs).takeWhile isNumberChar)).map fun j =>
        (j, (c :: cs).dropWhile isNumberChar) := by
  rw [value?.eq_def, skipBlanks_cons (isBlank_of_isNumberChar hc)]
  split
  case h_8 => rfl
  -- everything else begins with a character that no number has
  all_goals simp_all
  all_goals exact absurd hc (by decide)

/-- What stands behind a value: nothing that a number in front of it could go on with. -/
def Follows (rest : List Char) : Prop := ∀ c ∈ rest.head?, isNumberChar c = false

theorem follows_cons {c : Char} (h : isNumberChar c = false) (rest : List Char) :
    Follows (c :: rest) := by
  intro d hd
  obtain rfl := Option.some.inj hd
  exact h

theorem takeWhile_of_follows {rest : List Char} (h : Follows rest) :
    rest.takeWhile isNumberChar = [] ∧ rest.dropWhile isNumberChar = rest := by
  cases rest with
  | nil => exact ⟨rfl, rfl⟩
  | cons c rest =>
    have hc : ¬ isNumberChar c = true := by simp [h c rfl]
    exact ⟨List.takeWhile_cons_of_neg hc, List.dropWhile_cons_of_neg hc⟩

theorem value?_int (n : Int) {rest : List Char} (h : Follows rest) (fuel : Nat) :
    value? (fuel + 1) (digits n ++ rest) = some (int n, rest) := by
  have hnumber : ∀ c ∈ digits n, isNumberChar c = true := fun c => isNumberChar_of_mem_digits
  obtain ⟨htake, hdrop⟩ := takeWhile_of_follows h
  have hchars : (digits n ++ rest).takeWhile isNumberChar = digits n := by
    rw [List.takeWhile_append_of_pos hnumber, htake, List.append_nil]
  have hrest : (digits n ++ rest).dropWhile isNumberChar = rest := by
    rw [List.dropWhile_append_of_pos hnumber, hdrop]
  obtain ⟨c, cs, hcs, hc⟩ := digits_eq_cons n
  rw [hcs] at hchars hrest
  rw [hcs, List.cons_append, value?_number hc, ← List.cons_append, hchars, hrest, ← hcs,
    ofNumber?_digits]
  rfl

/-! ## Values -/

variable {j : Json} {cs rest : List Char}

/-- The first character of a value, which is no blank and does not end an array. -/
theorem compactBefore_eq_cons (h : j.Plain) (done : List Char) :
    ∃ c cs, compactBefore done j = c :: cs ∧ isBlank c = false ∧ c ≠ ']' := by
  cases h with
  | null => exact ⟨_, _, rfl, by decide, by decide⟩
  | bool b => cases b <;> exact ⟨_, _, rfl, by decide, by decide⟩
  | int n =>
    obtain ⟨c, cs, hcs, hc⟩ := digits_eq_cons n
    refine ⟨c, cs ++ done, ?_, isBlank_of_isNumberChar hc, ne_of_isNumberChar hc (by decide)⟩
    rw [compactBefore, ← List.cons_append, ← hcs]
    rfl
  | str s =>
    refine ⟨'"', s.toList.flatMap escape ++ ['"'] ++ done, ?_, by decide, by decide⟩
    rw [compactBefore, toList_quote]
    rfl
  | arr => exact ⟨_, _, rfl, by decide, by decide⟩
  | obj => exact ⟨_, _, rfl, by decide, by decide⟩

theorem length_le_compactItems {items : List Json}
    (h : ∀ j ∈ items, ∀ done, done.length < (compactBefore done j).length) (done : List Char) :
    done.length ≤ (compactItems done items).length := by
  induction items with
  | nil => exact Nat.le_refl _
  | cons j items ih =>
    have hitems := ih fun i hi => h i (List.mem_cons_of_mem _ hi)
    cases items with
    | nil => exact (h j List.mem_cons_self done).le
    | cons i items =>
      have hitem := h j List.mem_cons_self (',' :: compactItems done (i :: items))
      rw [List.length_cons] at hitem
      rw [compactItems]
      · omega
      · simp

theorem length_le_compactMembers {members : List (String × Json)}
    (h : ∀ m ∈ members, ∀ done, done.length < (compactBefore done m.2).length)
    (done : List Char) : done.length ≤ (compactMembers done members).length := by
  induction members with
  | nil => exact Nat.le_refl _
  | cons m members ih =>
    have hmembers := ih fun i hi => h i (List.mem_cons_of_mem _ hi)
    cases members with
    | nil =>
      have hmember := h m List.mem_cons_self done
      simp only [compactMembers, List.length_append, List.length_cons]
      omega
    | cons i members =>
      have hmember := h m List.mem_cons_self (',' :: compactMembers done (i :: members))
      simp only [compactMembers, List.length_append, List.length_cons] at hmember ⊢
      omega

/-- A value has at least one character. -/
theorem length_lt_compactBefore (h : j.Plain) (done : List Char) :
    done.length < (compactBefore done j).length := by
  induction h generalizing done with
  | null =>
    have hlength : (compactBefore done null).length = done.length + 4 := by simp [compactBefore]
    omega
  | bool b =>
    have hlength : done.length + 4 ≤ (compactBefore done (bool b)).length := by
      cases b <;> simp [compactBefore]
    omega
  | int n =>
    obtain ⟨c, cs, hcs, -⟩ := digits_eq_cons n
    have hlength : (compactBefore done (int n)).length = (digits n).length + done.length :=
      List.length_append
    rw [hlength, hcs, List.length_cons]
    omega
  | str s =>
    have hlength : (compactBefore done (str s)).length = (quote s).toList.length + done.length :=
      List.length_append
    rw [hlength, toList_quote, List.length_cons]
    omega
  | arr _ ih =>
    have hitems := length_le_compactItems ih (']' :: done)
    rw [List.length_cons] at hitems
    rw [compactBefore, List.length_cons]
    omega
  | obj _ _ ih =>
    have hmembers := length_le_compactMembers ih ('}' :: done)
    rw [List.length_cons] at hmembers
    rw [compactBefore, List.length_cons]
    omega

theorem value?_array {c : Char} (hblank : isBlank c = false) (hend : c ≠ ']') (fuel : Nat)
    (cs : List Char) : value? (fuel + 1) ('[' :: c :: cs) = items? fuel [] (c :: cs) := by
  have hskip : skipBlanks ('[' :: c :: cs) = '[' :: c :: cs := skipBlanks_cons (by decide) _
  simp only [value?, hskip, skipBlanks_cons hblank]
  split
  · next heq => exact absurd (List.cons.inj heq).1 hend
  · rfl

theorem value?_object (fuel : Nat) (cs : List Char) :
    value? (fuel + 1) ('{' :: '"' :: cs) = members? fuel [] ('"' :: cs) := by
  have hskip : skipBlanks ('{' :: '"' :: cs) = '{' :: '"' :: cs := skipBlanks_cons (by decide) _
  have hquote : skipBlanks ('"' :: cs) = '"' :: cs := skipBlanks_cons (by decide) _
  simp only [value?, hskip, hquote]
  split
  · next heq => exact absurd (List.cons.inj heq).1 (by decide)
  · rfl

theorem items?_last {fuel : Nat} (h : value? fuel cs = some (j, ']' :: rest))
    (before : List Json) :
    items? (fuel + 1) before cs = some (arr (before.reverse ++ [j]), rest) := by
  have hskip : skipBlanks (']' :: rest) = ']' :: rest := skipBlanks_cons (by decide) _
  simp [items?, h, hskip]

theorem items?_next {fuel : Nat} (h : value? fuel cs = some (j, ',' :: rest))
    (before : List Json) : items? (fuel + 1) before cs = items? fuel (j :: before) rest := by
  have hskip : skipBlanks (',' :: rest) = ',' :: rest := skipBlanks_cons (by decide) _
  simp [items?, h, hskip]

/-- A member up to its value. -/
def memberBefore (name : String) (cs : List Char) : List Char := (quote name).toList ++ ':' :: cs

theorem memberBefore_eq (name : String) (cs : List Char) :
    memberBefore name cs = '"' :: (name.toList.flatMap escape ++ '"' :: ':' :: cs) := by
  simp [memberBefore, toList_quote]

theorem members?_last {fuel : Nat} (h : value? fuel cs = some (j, '}' :: rest)) (name : String)
    (before : List (String × Json)) :
    members? (fuel + 1) before (memberBefore name cs) =
      some (obj (putMember name j before), rest) := by
  rw [memberBefore_eq]
  have hquote (cs : List Char) : skipBlanks ('"' :: cs) = '"' :: cs := skipBlanks_cons (by decide) _
  have hcolon : skipBlanks (':' :: cs) = ':' :: cs := skipBlanks_cons (by decide) _
  have hskip : skipBlanks ('}' :: rest) = '}' :: rest := skipBlanks_cons (by decide) _
  simp [members?, hquote, string?_quote, hcolon, h, hskip]

theorem members?_next {fuel : Nat} (h : value? fuel cs = some (j, ',' :: rest)) (name : String)
    (before : List (String × Json)) :
    members? (fuel + 1) before (memberBefore name cs) =
      members? fuel (putMember name j before) rest := by
  rw [memberBefore_eq]
  have hquote (cs : List Char) : skipBlanks ('"' :: cs) = '"' :: cs := skipBlanks_cons (by decide) _
  have hcolon : skipBlanks (':' :: cs) = ':' :: cs := skipBlanks_cons (by decide) _
  have hskip : skipBlanks (',' :: rest) = ',' :: rest := skipBlanks_cons (by decide) _
  simp [members?, hquote, string?_quote, hcolon, h, hskip]

/-- `j` is read back from in front of whatever cannot go on with a number, with as much fuel as it
has characters. -/
def ReadsBack (j : Json) : Prop :=
  ∀ fuel done, (compactBefore done j).length ≤ fuel + done.length → Follows done →
    value? fuel (compactBefore done j) = some (j, done)

theorem items?_compactItems {items : List Json} (hplain : ∀ j ∈ items, j.Plain)
    (hread : ∀ j ∈ items, j.ReadsBack) (hne : items ≠ []) (done : List Char) (fuel : Nat)
    (before : List Json) (h : (compactItems (']' :: done) items).length ≤ fuel + done.length) :
    items? fuel before (compactItems (']' :: done) items) =
      some (arr (before.reverse ++ items), done) := by
  induction items generalizing fuel before with
  | nil => exact absurd rfl hne
  | cons j items ih =>
    have hplain' : ∀ i ∈ items, i.Plain := fun i hi => hplain i (List.mem_cons_of_mem _ hi)
    have hread' : ∀ i ∈ items, i.ReadsBack := fun i hi => hread i (List.mem_cons_of_mem _ hi)
    have hj := hplain j List.mem_cons_self
    have hjread := hread j List.mem_cons_self
    have hrest := length_le_compactItems (fun i hi => length_lt_compactBefore (hplain' i hi))
      (']' :: done)
    rw [List.length_cons] at hrest
    cases items with
    | nil =>
      rw [compactItems] at h ⊢
      have hlength := length_lt_compactBefore hj (']' :: done)
      rw [List.length_cons] at hlength
      obtain ⟨fuel, rfl⟩ : ∃ n, fuel = n + 1 := ⟨fuel - 1, by omega⟩
      refine items?_last (hjread fuel _ ?_ (follows_cons (by decide) _)) before
      rw [List.length_cons]
      omega
    | cons i items =>
      rw [compactItems] at h ⊢
      · have hlength := length_lt_compactBefore hj (',' :: compactItems (']' :: done) (i :: items))
        rw [List.length_cons] at hlength
        obtain ⟨fuel, rfl⟩ : ∃ n, fuel = n + 1 := ⟨fuel - 1, by omega⟩
        have hvalue := hjread fuel (',' :: compactItems (']' :: done) (i :: items))
          (by rw [List.length_cons]; omega) (follows_cons (by decide) _)
        rw [items?_next hvalue, ih hplain' hread' (by simp) fuel (j :: before) (by omega),
          List.reverse_cons, List.append_assoc, List.singleton_append]
      all_goals simp

theorem putMember_of_not_mem {name : String} {members : List (String × Json)}
    (h : name ∉ members.map Prod.fst) (j : Json) :
    putMember name j members = members ++ [(name, j)] := by
  have hkept : ∀ m ∈ members, (m.1 != name) = true := by
    intro m hm
    exact bne_iff_ne.mpr fun heq => h (heq ▸ List.mem_map_of_mem hm)
  rw [putMember, List.filter_eq_self.mpr hkept]

theorem length_memberBefore (name : String) (cs : List Char) :
    cs.length < (memberBefore name cs).length := by
  simp only [memberBefore, List.length_append, List.length_cons]
  omega

theorem members?_compactMembers {members : List (String × Json)}
    (hplain : ∀ m ∈ members, m.2.Plain) (hread : ∀ m ∈ members, m.2.ReadsBack)
    (hne : members ≠ []) (done : List Char) (fuel : Nat) (before : List (String × Json))
    (hnames : ((before ++ members).map Prod.fst).Nodup)
    (h : (compactMembers ('}' :: done) members).length ≤ fuel + done.length) :
    members? fuel before (compactMembers ('}' :: done) members) =
      some (obj (before ++ members), done) := by
  induction members generalizing fuel before with
  | nil => exact absurd rfl hne
  | cons m members ih =>
    obtain ⟨name, j⟩ := m
    have hplain' : ∀ i ∈ members, i.2.Plain := fun i hi => hplain i (List.mem_cons_of_mem _ hi)
    have hread' : ∀ i ∈ members, i.2.ReadsBack := fun i hi => hread i (List.mem_cons_of_mem _ hi)
    have hj : j.Plain := hplain (name, j) List.mem_cons_self
    have hjread : j.ReadsBack := hread (name, j) List.mem_cons_self
    have hnew : name ∉ before.map Prod.fst := by
      intro hmem
      rw [List.map_append, List.nodup_append] at hnames
      exact hnames.2.2 name hmem name (by simp) rfl
    have hput := putMember_of_not_mem hnew j
    have hrest := length_le_compactMembers (fun i hi => length_lt_compactBefore (hplain' i hi))
      ('}' :: done)
    rw [List.length_cons] at hrest
    cases members with
    | nil =>
      have hshape : compactMembers ('}' :: done) [(name, j)] =
          memberBefore name (compactBefore ('}' :: done) j) := rfl
      rw [hshape] at h ⊢
      have hlength := length_memberBefore name (compactBefore ('}' :: done) j)
      have hlength' := length_lt_compactBefore hj ('}' :: done)
      rw [List.length_cons] at hlength'
      obtain ⟨fuel, rfl⟩ : ∃ n, fuel = n + 1 := ⟨fuel - 1, by omega⟩
      have hvalue := hjread fuel ('}' :: done) (by rw [List.length_cons]; omega)
        (follows_cons (by decide) _)
      rw [members?_last hvalue, hput]
    | cons i members =>
      have hshape : compactMembers ('}' :: done) ((name, j) :: i :: members) =
          memberBefore name
            (compactBefore (',' :: compactMembers ('}' :: done) (i :: members)) j) := rfl
      rw [hshape] at h ⊢
      generalize hbehind : compactMembers ('}' :: done) (i :: members) = behind at h hrest ih ⊢
      have hlength := length_memberBefore name (compactBefore (',' :: behind) j)
      have hlength' := length_lt_compactBefore hj (',' :: behind)
      rw [List.length_cons] at hlength'
      obtain ⟨fuel, rfl⟩ : ∃ n, fuel = n + 1 := ⟨fuel - 1, by omega⟩
      have hvalue := hjread fuel (',' :: behind) (by rw [List.length_cons]; omega)
        (follows_cons (by decide) _)
      have hmore := ih hplain' hread' (by simp) fuel (before ++ [(name, j)])
        (by rwa [List.append_assoc, List.singleton_append]) (by omega)
      rw [members?_next hvalue, hput, hmore, List.append_assoc, List.singleton_append]

/-! ## Whole values -/

/-- Without fuel there is nothing to show, since a value has a character. -/
theorem readsBack_of_fuel (h : j.Plain)
    (hread : ∀ fuel done, (compactBefore done j).length ≤ fuel + 1 + done.length →
      Follows done → value? (fuel + 1) (compactBefore done j) = some (j, done)) :
    j.ReadsBack := by
  intro fuel done hfuel hfollows
  have hlength := length_lt_compactBefore h done
  cases fuel with
  | zero => omega
  | succ fuel => exact hread fuel done hfuel hfollows

theorem value?_str (fuel : Nat) (s : String) (done : List Char) :
    value? (fuel + 1) (compactBefore done (str s)) = some (str s, done) := by
  have hshape : compactBefore done (str s) = '"' :: (s.toList.flatMap escape ++ '"' :: done) := by
    simp [compactBefore, toList_quote]
  have hskip (cs : List Char) : skipBlanks ('"' :: cs) = '"' :: cs := skipBlanks_cons (by decide) _
  rw [hshape]
  simp only [value?, hskip, string?_quote, Option.map_some]

theorem readsBack_of_plain (h : j.Plain) : j.ReadsBack := by
  induction h with
  | null => exact readsBack_of_fuel .null fun fuel done _ _ => rfl
  | bool b =>
    refine readsBack_of_fuel (.bool b) fun fuel done _ _ => ?_
    cases b <;> rfl
  | int n => exact readsBack_of_fuel (.int n) fun fuel done _ hfollows => value?_int n hfollows fuel
  | str s => exact readsBack_of_fuel (.str s) fun fuel done _ _ => value?_str fuel s done
  | @arr items hplain ih =>
    refine readsBack_of_fuel (.arr hplain) fun fuel done hfuel _ => ?_
    rw [compactBefore, List.length_cons] at hfuel
    cases items with
    | nil => rfl
    | cons i items =>
      have hitems := items?_compactItems hplain ih (by simp) done fuel [] (by omega)
      have hfirst : ∃ c cs, compactItems (']' :: done) (i :: items) = c :: cs ∧
          isBlank c = false ∧ c ≠ ']' := by
        have hi := hplain i List.mem_cons_self
        cases items with
        | nil => exact compactBefore_eq_cons hi _
        | cons => exact compactBefore_eq_cons hi _
      obtain ⟨c, cs, hcs, hblank, hend⟩ := hfirst
      rw [hcs] at hitems
      rw [compactBefore, hcs, value?_array hblank hend, hitems]
      rfl
  | @obj members hnames hplain ih =>
    refine readsBack_of_fuel (.obj hnames hplain) fun fuel done hfuel _ => ?_
    rw [compactBefore, List.length_cons] at hfuel
    cases members with
    | nil => rfl
    | cons m members =>
      have hmembers :=
        members?_compactMembers hplain ih (by simp) done fuel [] hnames (by omega)
      have hfirst : ∃ cs, compactMembers ('}' :: done) (m :: members) = '"' :: cs := by
        cases members with
        | nil => exact ⟨_, memberBefore_eq m.1 _⟩
        | cons => exact ⟨_, memberBefore_eq m.1 _⟩
      obtain ⟨cs, hcs⟩ := hfirst
      rw [hcs] at hmembers
      rw [compactBefore, hcs, value?_object, hmembers]
      rfl

/-- A plain value is read back from what it is written as. -/
theorem read?_compact (h : j.Plain) : read? j.compact = some j := by
  have hvalue := readsBack_of_plain h (2 * (compactBefore [] j).length + 2) [] (by omega)
    (by simp [Follows])
  simp [read?, compact, hvalue, skipBlanks]

end OtaCompile.Json
