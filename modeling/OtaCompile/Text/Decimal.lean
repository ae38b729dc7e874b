/-!
# Decimal numbers as text

`readBelow` reads decimal digits and nothing else, as a number below a bound.  `readWord` is the
reader of 64-bit settings, which allows a plus sign in front.
-/

namespace OtaCompile.Text

def isDigit (c : Char) : Bool := '0' ≤ c && c ≤ '9'

def digitValue (c : Char) : Nat := c.toNat - '0'.toNat

/-- The number written by a list of digits. -/
def digitsValue (cs : List Char) : Nat := cs.foldl (fun n c => 10 * n + digitValue c) 0

@[simp] theorem digitsValue_nil : digitsValue [] = 0 := rfl

def readBelow (bound : Nat) (cs : List Char) : Option Nat :=
  if cs.isEmpty || !cs.all isDigit then none
  else if digitsValue cs < bound then some (digitsValue cs)
  else none

def withoutPlus : List Char → List Char
  | '+' :: cs => cs
  | cs => cs

def readWord (s : String) : Option UInt64 :=
  (readBelow UInt64.size (withoutPlus s.toList)).map UInt64.ofNat

end OtaCompile.Text
