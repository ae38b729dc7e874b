/-!
# Sets of characters

A set of characters is the list of its ranges of code points.
-/

namespace OtaCompile.Text

/-- Inclusive ranges of code points, in order. -/
abbrev CharSet := List (Nat × Nat)

def CharSet.contains (s : CharSet) (c : Char) : Bool :=
  s.any fun r => r.1 ≤ c.toNat && c.toNat ≤ r.2

end OtaCompile.Text
