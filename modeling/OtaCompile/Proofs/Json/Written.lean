import OtaCompile.Event.Json
import OtaCompile.Proofs.Json.Compact

/-!
# Data that are written and read back

Data are `Lossless` if whatever is written of them is read back unchanged, in every dialect.  A
record that was written is read by the names of its members (`read_record`), and an alternative by
its name and the members next to it (`read_tagged`) or below it (`read_body`), so that a datum is
read back as soon as its fields are.  What is written is `Plain`, hence also restored from its text
(`read?_compact_encode`).  Counts are natural numbers here and are restored as far as they are
numbers of 64 bits.
-/

namespace OtaCompile

/-- Data that are read back unchanged from what they are written as. -/
class Lossless (α : Type) [Encode α] [Decode α] : Prop where
  decode?_encode (d : Dialect) (a : α) : decode? d (encode a) = some a

export Lossless (decode?_encode)
attribute [simp] decode?_encode

/-- Data of which nothing is written but what the text determines. -/
class WritesPlain (α : Type) [Encode α] : Prop where
  plain_encode (a : α) : (encode a).Plain

export WritesPlain (plain_encode)
attribute [simp] plain_encode

variable {α β : Type}

theorem read?_compact_encode [Encode α] [WritesPlain α] (a : α) :
    Json.read? (encode a).compact = some (encode a) := Json.read?_compact (plain_encode a)

/-! ## Plain data -/

section Plain

instance : Lossless Bool := ⟨fun _ _ => rfl⟩
instance : Lossless String := ⟨fun _ _ => rfl⟩
instance : Lossless Path := ⟨fun _ _ => rfl⟩
instance [Named α] : Lossless α := ⟨fun _ a => Named.ofName?_name a⟩

instance : WritesPlain Bool := ⟨.bool⟩
instance : WritesPlain String := ⟨.str⟩
instance : WritesPlain Path := ⟨fun p => .str p.text⟩
instance : WritesPlain Nat := ⟨fun n => .int n⟩
instance : WritesPlain UInt32 := ⟨fun n => .int n.toNat⟩
instance : WritesPlain UInt64 := ⟨fun n => .int n.toNat⟩
instance : WritesPlain Int32 := ⟨fun n => .int n.toInt⟩
instance [Named α] : WritesPlain α := ⟨fun a => .str (Named.name a)⟩

theorem natBelow?_ofNat (size n : Nat) :
    natBelow? size (.ofNat n) = if n < size then some n else none := rfl

theorem lt_of_natBelow? {size n : Nat} {j : Json} (h : natBelow? size j = some n) : n < size := by
  unfold natBelow? at h
  split at h
  · split at h
    · next hlt => exact Option.some.inj h ▸ hlt
    · cases h
  · cases h

instance : Lossless UInt32 where
  decode?_encode _ n := by
    show (natBelow? UInt32.size (.ofNat n.toNat)).map UInt32.ofNat = some n
    rw [natBelow?_ofNat, if_pos n.toNat_lt, Option.map_some, UInt32.ofNat_toNat]

instance : Lossless UInt64 where
  decode?_encode _ n := by
    show (natBelow? UInt64.size (.ofNat n.toNat)).map UInt64.ofNat = some n
    rw [natBelow?_ofNat, if_pos n.toNat_lt, Option.map_some, UInt64.ofNat_toNat]

instance : Lossless Int32 where
  decode?_encode _ n := by
    show (intBetween? (-0x80000000) 0x7fffffff (.int n.toInt)).map Int32.ofInt = some n
    have hlow := n.le_toInt
    have hhigh := n.toInt_lt
    have hrange : -0x80000000 ≤ n.toInt ∧ n.toInt ≤ 0x7fffffff := ⟨hlow, by omega⟩
    rw [intBetween?, if_pos hrange, Option.map_some, Int32.ofInt_toInt]

variable [Encode α] [Decode α] [Lossless α]

instance : Lossless (List α) where
  decode?_encode d as := by
    show (as.map encode).mapM (decode? d) = some as
    induction as with
    | nil => rfl
    | cons a as ih => simp [ih]

/-- What is there is told from what is not, if it is never written as null. -/
theorem lossless_option (h : ∀ a : α, encode a ≠ .null) : Lossless (Option α) where
  decode?_encode d a := by
    have hsome : ∀ j : Json, j ≠ .null →
        (decode? d j : Option (Option α)) = (decode? d j).map some := by
      intro j hj
      cases j with
      | null => exact absurd rfl hj
      | _ => rfl
    cases a with
    | none => rfl
    | some a =>
      show decode? d (encode a) = _
      rw [hsome _ (h a), decode?_encode, Option.map_some]

instance : Lossless (Option Path) := lossless_option fun _ => nofun
instance : Lossless (Option String) := lossless_option fun _ => nofun

instance : WritesPlain (Option Path) where
  plain_encode p := by
    cases p with
    | none => exact .null
    | some p => exact plain_encode p

instance [WritesPlain α] : WritesPlain (List α) where
  plain_encode as := .arr (by simp)

end Plain

/-! ## Counts -/

/-- The count is a number of 64 bits. -/
def InWord (n : Nat) : Prop := n < UInt64.size

theorem decode?_encode_nat (d : Dialect) {n : Nat} (h : InWord n) :
    decode? d (encode n) = some n := if_pos h

theorem inWord_of_decode? {d : Dialect} {j : Json} {n : Nat} (h : decode? d j = some n) :
    InWord n := lt_of_natBelow? h

theorem inWord_of_required {r : Record} {d : Dialect} {name : String} {n : Nat}
    (h : r.required d name = some n) : InWord n := by
  obtain ⟨j, -, hj⟩ := Option.bind_eq_some_iff.mp h
  exact inWord_of_decode? hj

/-! ## Records and alternatives -/

/-- The fields of an object. -/
def Record.written (fields : List (String × Json)) : Record :=
  ⟨fun name => fields.lookup name, false⟩

section Fields

variable [Encode α] [Decode α] {fields : List (String × Json)} {d : Dialect} {name : String}
  {b : β}

/-- A field that is restored by itself is read, and what is behind it is read with its value. -/
theorem read_required {a : α} {read : α → Option β} (hfield : fields.lookup name = some (encode a))
    (ha : decode? d (encode a) = some a) (h : read a = some b) :
    ((Record.written fields).required d name >>= read) = some b := by
  have hvalue : (Record.written fields).required d name = some a := by
    show (fields.lookup name).bind (decode? d) = some a
    rw [hfield, Option.bind_some, ha]
  rw [hvalue]
  exact h

theorem read_field [Lossless α] {a : α} {read : α → Option β}
    (hfield : fields.lookup name = some (encode a)) (h : read a = some b) :
    ((Record.written fields).required d name >>= read) = some b :=
  read_required hfield (decode?_encode d a) h

theorem read_count {n : Nat} {read : Nat → Option β}
    (hfield : fields.lookup name = some (encode n)) (hn : InWord n) (h : read n = some b) :
    ((Record.written fields).required d name >>= read) = some b :=
  read_required hfield (decode?_encode_nat d hn) h

theorem read_withDefault [Lossless α] {a value : α} {read : α → Option β}
    (hfield : fields.lookup name = some (encode a)) (h : read a = some b) :
    ((Record.written fields).withDefault d name value >>= read) = some b := by
  have hfield : (Record.written fields).field? name = some (encode a) := hfield
  have hvalue : (Record.written fields).withDefault d name value = some a := by
    rw [Record.withDefault, hfield]
    exact decode?_encode d a
  rw [hvalue]
  exact h

/-- A field that may be null. -/
theorem read_optional [Lossless (Option α)] {a : Option α} {read : Option α → Option β}
    (hfield : fields.lookup name = some (encode a)) (h : read a = some b) :
    ((Record.written fields).optional d name >>= read) = some b := by
  have hfield : (Record.written fields).field? name = some (encode a) := hfield
  have hvalue : (Record.written fields).optional d name = some a := by
    rw [Record.optional, hfield]
    exact decode?_encode d a
  rw [hvalue]
  exact h

/-- A field that is left out if there is nothing to write. -/
theorem read_optionalMember [Lossless (Option α)] {a : Option α} {read : Option α → Option β}
    (hfield : fields.lookup name = a.map encode) (h : read a = some b) :
    ((Record.written fields).optional d name >>= read) = some b := by
  cases a with
  | none =>
    have hfield : (Record.written fields).field? name = none := hfield
    have hvalue : (Record.written fields).optional d name = some (none : Option α) := by
      rw [Record.optional, hfield]
      rfl
    rw [hvalue]
    exact h
  | some a => exact read_optional (a := some a) hfield h

end Fields

section Shapes

variable {d : Dialect} {names : List String} {tag name : String} {fields : List (String × Json)}
  {b : β}

theorem read_record {read : Record → Option β} (h : read (.written fields) = some b) :
    ((Json.obj fields).record? d names >>= read) = some b := h

theorem read_body {read : Record → Option β} (h : read (.written fields) = some b) :
    (Json.body? names (some (.obj fields)) >>= read) = some b := h

/-- The tag is not one of the fields. -/
def Untagged (tag : String) (fields : List (String × Json)) : Prop := ∀ m ∈ fields, m.1 ≠ tag

theorem taggedAlternative?_taggedAlternative (h : Untagged tag fields) :
    (Json.taggedAlternative tag name fields).taggedAlternative? d tag names =
      some (name, .obj fields) := by
  have hkept : fields.filter (fun m => m.1 != tag) = fields :=
    List.filter_eq_self.mpr fun m hm => bne_iff_ne.mpr (h m hm)
  simp [Json.taggedAlternative, Json.taggedAlternative?, Dialect.alternativeName?, hkept]

theorem read_tagged {read : String × Json → Option β} (htag : Untagged tag fields)
    (h : read (name, .obj fields) = some b) :
    ((Json.taggedAlternative tag name fields).taggedAlternative? d tag names >>= read) =
      some b := by
  rw [taggedAlternative?_taggedAlternative htag]
  exact h

theorem plain_tagged (htag : Untagged tag fields) (hnames : (fields.map Prod.fst).Nodup)
    (h : ∀ m ∈ fields, m.2.Plain) : (Json.taggedAlternative tag name fields).Plain := by
  refine .obj (List.nodup_cons.mpr ⟨?_, hnames⟩) ?_
  · intro hmem
    obtain ⟨m, hm, hname⟩ := List.mem_map.mp hmem
    exact htag m hm hname
  · intro m hm
    rcases List.mem_cons.mp hm with rfl | hm
    · exact .str name
    · exact h m hm

end Shapes

end OtaCompile
