import OtaCompile.Json
import OtaCompile.Naming
import OtaCompile.Path

/-!
# Typed data in JSON

`Encode` writes a value as JSON and `Decode` reads it back.  The reading rules are those of a
`Dialect`: whether a record written as an array may have items to spare, what may stand as the body
of an alternative without fields, and how the name of an alternative may be given.

Records are read by name from an object, whose other members are ignored, or by position from an
array.
-/

namespace OtaCompile

structure Dialect where
  /-- Whether a record written as an array may have more items than fields. -/
  spareItems : Bool
  /-- What may be written after the name of an alternative that has no fields. -/
  emptyBody : Json → Bool
  /-- Whether an alternative with its name inside may give its place instead, counted from zero. -/
  placeAsName : Bool

namespace Dialect

/-- JSON documents. -/
def json : Dialect where
  spareItems := false
  emptyBody
    | .null => true
    | _ => false
  placeAsName := false

/-- The inside of an alternative whose tag is one of its members. -/
def tagged : Dialect where
  spareItems := false
  emptyBody
    | .null | .obj [] => true
    | _ => false
  placeAsName := true

/-- Configuration documents. -/
def toml : Dialect where
  spareItems := true
  emptyBody
    | .obj [] | .arr [] => true
    | _ => false
  placeAsName := false

end Dialect

/-- Reads a text as a document of some kind, if it is one. -/
abbrev DocumentReader := String → Option Json

class Encode (α : Type) where
  encode : α → Json

class Decode (α : Type) where
  decode? : Dialect → Json → Option α

export Encode (encode)
export Decode (decode?)

/-! ### Plain data -/

instance : Encode Bool := ⟨.bool⟩

instance : Decode Bool where
  decode? _
    | .bool b => some b
    | _ => none

instance : Encode String := ⟨.str⟩

instance : Decode String where
  decode? _
    | .str s => some s
    | _ => none

instance : Encode Path := ⟨fun p => .str p.text⟩

instance : Decode Path where
  decode? _
    | .str s => some ⟨s⟩
    | _ => none

/-- A natural number below `size`. -/
def natBelow? (size : Nat) : Json → Option Nat
  | .int (.ofNat n) => if n < size then some n else none
  | _ => none

/-- An integer from `low` to `high`. -/
def intBetween? (low high : Int) : Json → Option Int
  | .int n => if low ≤ n ∧ n ≤ high then some n else none
  | _ => none

instance : Encode UInt8 := ⟨fun n => .ofNat n.toNat⟩
instance : Decode UInt8 := ⟨fun _ j => (natBelow? UInt8.size j).map .ofNat⟩

instance : Encode UInt32 := ⟨fun n => .ofNat n.toNat⟩
instance : Decode UInt32 := ⟨fun _ j => (natBelow? UInt32.size j).map .ofNat⟩

instance : Encode UInt64 := ⟨fun n => .ofNat n.toNat⟩
instance : Decode UInt64 := ⟨fun _ j => (natBelow? UInt64.size j).map .ofNat⟩

instance : Encode Int32 := ⟨fun n => .int n.toInt⟩
instance : Decode Int32 := ⟨fun _ j => (intBetween? (-0x80000000) 0x7fffffff j).map .ofInt⟩

/-- Counts are read as 64-bit numbers. -/
instance : Encode Nat := ⟨.ofNat⟩
instance : Decode Nat := ⟨fun _ j => natBelow? UInt64.size j⟩

variable {α : Type}

instance [Encode α] : Encode (Option α) where
  encode
    | some a => encode a
    | none => .null

instance [Decode α] : Decode (Option α) where
  decode? d
    | .null => some none
    | j => (decode? d j).map some

instance [Encode α] : Encode (List α) := ⟨fun as => .arr (as.map encode)⟩

instance [Decode α] : Decode (List α) where
  decode? d
    | .arr items => items.mapM (decode? d)
    | _ => none

instance (priority := low) [Named α] : Encode α := ⟨fun a => .str (Named.name a)⟩

/-- An alternative without fields is its name, or an object that gives its name an empty body. -/
instance (priority := low) [Named α] : Decode α where
  decode? d
    | .str s => Named.ofName? s
    | .obj [(s, body)] => if d.emptyBody body then Named.ofName? s else none
    | _ => none

/-! ### Records -/

/-- The fields of a record as they were written. -/
structure Record where
  field? : String → Option Json
  /-- Whether the fields stand in an array, where none before another can be left out. -/
  positional : Bool

def Json.record? (d : Dialect) (names : List String) : Json → Option Record
  | .obj ms => some ⟨fun name => ms.lookup name, false⟩
  | .arr items =>
    if !d.spareItems && items.length > names.length then none
    else some ⟨fun name => (names.zip items).lookup name, true⟩
  | _ => none

namespace Record

variable [Decode α]

/-- A field that must be there. -/
def required (r : Record) (d : Dialect) (name : String) : Option α :=
  (r.field? name).bind (decode? d)

/-- A field with a value for when it is left out. -/
def withDefault (r : Record) (d : Dialect) (name : String) (value : α) : Option α :=
  match r.field? name with
  | some j => decode? d j
  | none => some value

/-- A field that may be null, and in an object also left out. -/
def optional (r : Record) (d : Dialect) (name : String) : Option (Option α) :=
  match r.field? name with
  | some j => decode? d j
  | none => if r.positional then none else some none

end Record

/-! ### Alternatives -/

/-- An alternative with its name outside: the name alone, or an object of the name and the body. -/
def Json.alternative? : Json → Option (String × Option Json)
  | .str s => some (s, none)
  | .obj [(s, body)] => some (s, some body)
  | _ => none

/-- The name of an alternative, one of `names`. -/
def Dialect.alternativeName? (d : Dialect) (names : List String) : Json → Option String
  | .str s => some s
  | .int (.ofNat n) => if d.placeAsName then names[n]? else none
  | _ => none

/-- An alternative with its name inside, under `tag`: the name and the record without it. -/
def Json.taggedAlternative? (d : Dialect) (tag : String) (names : List String) :
    Json → Option (String × Json)
  | .obj ms => do
    let name ← d.alternativeName? names (← ms.lookup tag)
    return (name, .obj (ms.filter fun m => m.1 != tag))
  | .arr (item :: items) => do return (← d.alternativeName? names item, .arr items)
  | _ => none

/-- An object that is the body of an alternative. -/
def Json.body? (names : List String) : Option Json → Option Record
  | some (.obj ms) => Json.record? .json names (.obj ms)
  | _ => none

end OtaCompile
