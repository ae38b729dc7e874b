import OtaCompile.OsText

/-!
# Texts and their bytes

What is read from the bytes of a text is the text: each character is announced by its first byte
with the bounds that the others keep to (`charsBehind_utf8EncodeChar`, by the number of its bytes).
So the bytes of a text are read as it, and no others are (`OsText.text?_eq_some_iff`).
-/

namespace OtaCompile

namespace Text

/-! ## One character -/

theorem charsBehind_length (bs rest : List UInt8) :
    charsBehind bs.length (bs ++ rest) = charsBehind 0 rest := by
  induction bs with
  | nil => rfl
  | cons b bs ih => exact ih

/-- A first byte and all that it announces make one character. -/
theorem charsBehind_lead {b : UInt8} {l : Lead} {bs rest : List UInt8} (hlead : lead? b = some l)
    (hcount : bs.length = l.count)
    (hfollowing : following l.count l.low l.high (bs ++ rest) = bs) :
    charsBehind 0 (b :: (bs ++ rest)) = l.char bs :: charsBehind 0 rest := by
  simp only [charsBehind, hlead, hfollowing, if_pos hcount, charsBehind_length]

theorem toNat_ofNat_of_lt {n : Nat} (h : n < 256) : (UInt8.ofNat n).toNat = n := by
  rw [UInt8.toNat_ofNat']
  exact Nat.mod_eq_of_lt h

theorem following_cons {n m : Nat} {low high : UInt8} {bs : List UInt8} (hm : m < 256)
    (hlow : low.toNat ≤ m) (hhigh : m ≤ high.toNat) :
    following (n + 1) low high (.ofNat m :: bs) = .ofNat m :: following n 0x80 0xBF bs := by
  have hbounds : low ≤ UInt8.ofNat m ∧ UInt8.ofNat m ≤ high := by
    rw [UInt8.le_iff_toNat_le, UInt8.le_iff_toNat_le, toNat_ofNat_of_lt hm]
    exact ⟨hlow, hhigh⟩
  rw [following, if_pos hbounds]

/-! ### First bytes -/

section Lead

variable {n : Nat}

theorem lead?_one (h : n < 0x80) : lead? (.ofNat n) = some { bits := n } := by
  simp only [lead?, toNat_ofNat_of_lt (n := n) (by omega)]
  rw [if_pos h]

theorem lead?_two (h : 0xC2 ≤ n) (h' : n < 0xE0) :
    lead? (.ofNat n) = some { bits := n - 0xC0, count := 1 } := by
  simp only [lead?, toNat_ofNat_of_lt (n := n) (by omega)]
  rw [if_neg (by omega), if_neg (by omega), if_pos h']

/-- The second of three bytes leaves out shorter forms and surrogates. -/
theorem lead?_three (h : 0xE0 ≤ n) (h' : n < 0xF0) :
    lead? (.ofNat n) = some {
      bits := n - 0xE0, count := 2
      low := if n = 0xE0 then 0xA0 else 0x80, high := if n = 0xED then 0x9F else 0xBF } := by
  simp only [lead?, toNat_ofNat_of_lt (n := n) (by omega)]
  rw [if_neg (by omega), if_neg (by omega), if_neg (by omega)]
  by_cases hE0 : n = 0xE0
  · subst hE0
    rfl
  · by_cases hED : n = 0xED
    · subst hED
      rfl
    · rw [if_neg hE0, if_neg hED, if_pos h', if_neg hE0, if_neg hED]

/-- The second of four bytes leaves out shorter forms and what is behind the last code point. -/
theorem lead?_four (h : 0xF0 ≤ n) (h' : n ≤ 0xF4) :
    lead? (.ofNat n) = some {
      bits := n - 0xF0, count := 3
      low := if n = 0xF0 then 0x90 else 0x80, high := if n = 0xF4 then 0x8F else 0xBF } := by
  simp only [lead?, toNat_ofNat_of_lt (n := n) (by omega)]
  rw [if_neg (by omega), if_neg (by omega), if_neg (by omega), if_neg (by omega),
    if_neg (by omega), if_neg (by omega)]
  by_cases hF0 : n = 0xF0
  · subst hF0
    rfl
  · by_cases hF4 : n = 0xF4
    · subst hF4
      rfl
    · rw [if_neg hF0, if_pos (by omega), if_neg hF0, if_neg hF4]

end Lead

/-! ### Whole characters -/

/-- A byte behind the first one; it has six bits of the code point. -/
def laterByte (n : Nat) : UInt8 := .ofNat (n % 64 + 128)

theorem toNat_laterByte_mod (n : Nat) : (laterByte n).toNat % 64 = n % 64 := by
  rw [laterByte, toNat_ofNat_of_lt (by omega)]
  omega

theorem following_laterByte {n m : Nat} {low high : UInt8} {bs : List UInt8}
    (hlow : low.toNat ≤ m % 64 + 128) (hhigh : m % 64 + 128 ≤ high.toNat) :
    following (n + 1) low high (laterByte m :: bs) =
      laterByte m :: following n 0x80 0xBF bs :=
  following_cons (by omega) hlow hhigh

/-- Behind the second byte there are no special bounds. -/
theorem following_laterByte_any {n m : Nat} {bs : List UInt8} :
    following (n + 1) 0x80 0xBF (laterByte m :: bs) =
      laterByte m :: following n 0x80 0xBF bs :=
  following_laterByte (Nat.le_add_left 128 (m % 64)) (by show m % 64 + 128 ≤ 191; omega)

section Sizes

variable {v : Nat} (rest : List UInt8)

theorem charsBehind_one (h : v ≤ 127) :
    charsBehind 0 ([.ofNat v] ++ rest) = .ofNat v :: charsBehind 0 rest :=
  charsBehind_lead (lead?_one (by omega)) rfl rfl

theorem charsBehind_two (h : 127 < v) (h' : v ≤ 2047) :
    charsBehind 0 ([.ofNat (v / 64 % 32 + 192), laterByte v] ++ rest) =
      .ofNat v :: charsBehind 0 rest := by
  have hlead := lead?_two (n := v / 64 % 32 + 192) (by omega) (by omega)
  have hsecond : following 1 0x80 0xBF ([laterByte v] ++ rest) = [laterByte v] :=
    following_laterByte_any
  refine (charsBehind_lead hlead rfl hsecond).trans (congrArg (Char.ofNat · :: _) ?_)
  simp only [List.foldl_cons, List.foldl_nil, toNat_laterByte_mod]
  omega

/-- What is shorter is below the second byte's bounds, and surrogates are above them. -/
theorem charsBehind_three (h : 2047 < v) (h' : v ≤ 65535) (hvalid : v < 0xD800 ∨ 0xDFFF < v) :
    charsBehind 0 ([.ofNat (v / 4096 % 16 + 224), laterByte (v / 64), laterByte v] ++ rest) =
      .ofNat v :: charsBehind 0 rest := by
  have hlead := lead?_three (n := v / 4096 % 16 + 224) (by omega) (by omega)
  have hsecond : following 2 (if v / 4096 % 16 + 224 = 0xE0 then 0xA0 else 0x80)
      (if v / 4096 % 16 + 224 = 0xED then 0x9F else 0xBF)
      ([laterByte (v / 64), laterByte v] ++ rest) = [laterByte (v / 64), laterByte v] := by
    refine (following_laterByte ?_ ?_).trans (congrArg _ following_laterByte_any)
    · split
      · show 160 ≤ v / 64 % 64 + 128
        omega
      · exact Nat.le_add_left 128 _
    · split
      · show v / 64 % 64 + 128 ≤ 159
        omega
      · show v / 64 % 64 + 128 ≤ 191
        omega
  refine (charsBehind_lead hlead rfl hsecond).trans (congrArg (Char.ofNat · :: _) ?_)
  simp only [List.foldl_cons, List.foldl_nil, toNat_laterByte_mod]
  omega

theorem charsBehind_four (h : 65535 < v) (h' : v < 0x110000) :
    charsBehind 0 ([.ofNat (v / 262144 % 8 + 240), laterByte (v / 4096), laterByte (v / 64),
      laterByte v] ++ rest) = .ofNat v :: charsBehind 0 rest := by
  have hlead := lead?_four (n := v / 262144 % 8 + 240) (by omega) (by omega)
  have hsecond : following 3 (if v / 262144 % 8 + 240 = 0xF0 then 0x90 else 0x80)
      (if v / 262144 % 8 + 240 = 0xF4 then 0x8F else 0xBF)
      ([laterByte (v / 4096), laterByte (v / 64), laterByte v] ++ rest) =
        [laterByte (v / 4096), laterByte (v / 64), laterByte v] := by
    refine (following_laterByte ?_ ?_).trans (congrArg _ (following_laterByte_any.trans
      (congrArg _ following_laterByte_any)))
    · split
      · show 144 ≤ v / 4096 % 64 + 128
        omega
      · exact Nat.le_add_left 128 _
    · split
      · show v / 4096 % 64 + 128 ≤ 143
        omega
      · show v / 4096 % 64 + 128 ≤ 191
        omega
  refine (charsBehind_lead hlead rfl hsecond).trans (congrArg (Char.ofNat · :: _) ?_)
  simp only [List.foldl_cons, List.foldl_nil, toNat_laterByte_mod]
  omega

end Sizes

theorem charsBehind_utf8EncodeChar (c : Char) (rest : List UInt8) :
    charsBehind 0 (String.utf8EncodeChar c ++ rest) = c :: charsBehind 0 rest := by
  have hvalid : c.toNat < 0xD800 ∨ (0xDFFF < c.toNat ∧ c.toNat < 0x110000) := c.valid
  have hchar : charsBehind 0 (String.utf8EncodeChar c ++ rest) =
      .ofNat c.toNat :: charsBehind 0 rest := by
    rw [String.utf8EncodeChar]
    split
    · next h => exact charsBehind_one rest h
    · next h =>
      split
      · next h' => exact charsBehind_two rest (Nat.lt_of_not_le h) h'
      · next h' =>
        split
        · next h'' =>
          exact charsBehind_three rest (Nat.lt_of_not_le h') h'' (hvalid.imp_right (·.1))
        · next h'' =>
          have hlast : c.toNat < 0x110000 := by omega
          exact charsBehind_four rest (Nat.lt_of_not_le h'') hlast
  rw [hchar, Char.ofNat_toNat]

theorem charsBehind_flatMap (cs : List Char) :
    charsBehind 0 (cs.flatMap String.utf8EncodeChar) = cs := by
  induction cs with
  | nil => rfl
  | cons c cs ih => rw [List.flatMap_cons, charsBehind_utf8EncodeChar, ih]

end Text

namespace OsText

variable {o : OsText} {s : String}

@[simp] theorem shown_ofText (s : String) : (ofText s).shown = s := by
  rw [shown, ofText, Text.ofBytes, Text.charsBehind_flatMap, String.ofList_toList]

/-- What is text is the text whose bytes it has. -/
theorem text?_eq_some_iff : o.text? = some s ↔ o = ofText s := by
  constructor
  · intro h
    rw [text?] at h
    split at h
    · next hback => rw [← hback, Option.some.inj h]
    · cases h
  · rintro rfl
    rw [text?, shown_ofText, if_pos rfl]

/-- The bytes are those of some text. -/
def IsText (o : OsText) : Prop := ∃ s, o = ofText s

theorem isText_iff : o.IsText ↔ ofPath o.toPath = o := by
  constructor
  · rintro ⟨s, rfl⟩
    rw [toPath, shown_ofText, ofPath]
  · intro h
    exact ⟨_, h.symm⟩

end OsText

end OtaCompile
