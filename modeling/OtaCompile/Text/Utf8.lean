/-!
# Bytes as text

Bytes that need not be text are read as UTF-8 as far as they are, with a replacement character for
each beginning of a character that is not completed and for each byte that begins none.
-/

namespace OtaCompile.Text

/-- What the first byte of a character announces: its own bits of the code point, how many bytes
follow, and the bounds of the first of these. -/
structure Lead where
  bits : Nat
  count : Nat := 0
  low : UInt8 := 0x80
  high : UInt8 := 0xBF

/-- The bounds leave out code points that have a shorter form, the surrogates, and numbers behind
the last code point. -/
def lead? (b : UInt8) : Option Lead :=
  let n := b.toNat
  if n < 0x80 then some { bits := n }
  else if n < 0xC2 then none
  else if n < 0xE0 then some { bits := n - 0xC0, count := 1 }
  else if n = 0xE0 then some { bits := 0, count := 2, low := 0xA0 }
  else if n = 0xED then some { bits := 0xD, count := 2, high := 0x9F }
  else if n < 0xF0 then some { bits := n - 0xE0, count := 2 }
  else if n = 0xF0 then some { bits := 0, count := 3, low := 0x90 }
  else if n < 0xF4 then some { bits := n - 0xF0, count := 3 }
  else if n = 0xF4 then some { bits := 4, count := 3, high := 0x8F }
  else none

/-- The bytes in front that may follow a first byte, `n` at most; the bounds are for the first of
them. -/
def following : (n : Nat) → (low high : UInt8) → List UInt8 → List UInt8
  | n + 1, low, high, b :: bs =>
    if low ≤ b ∧ b ≤ high then b :: following n 0x80 0xBF bs else []
  | _, _, _, _ => []

/-- The character that a first byte and all bytes behind it make; each of those has six bits. -/
def Lead.char (l : Lead) (bytes : List UInt8) : Char :=
  .ofNat (bytes.foldl (fun n b => 64 * n + b.toNat % 64) l.bits)

def replacement : Char := '\uFFFD'

/-- The characters behind the first bytes, `n` of them. -/
def charsBehind : (n : Nat) → List UInt8 → List Char
  | _, [] => []
  | n + 1, _ :: bs => charsBehind n bs
  | 0, b :: bs =>
    match lead? b with
    | none => replacement :: charsBehind 0 bs
    | some l =>
      let taken := following l.count l.low l.high bs
      let c := if taken.length = l.count then l.char taken else replacement
      c :: charsBehind taken.length bs

def ofBytes (bytes : List UInt8) : String := String.ofList (charsBehind 0 bytes)

end OtaCompile.Text
