/-!
# Compiler flags

A set of switches handed to the compiler as one 32-bit number.
-/

namespace OtaCompile.Compiler

structure Flags where
  bits : UInt32
deriving DecidableEq, Repr, Inhabited

namespace Flags

def none : Flags := ⟨0⟩
def publicOutput : Flags := ⟨2⟩
def safeMode : Flags := ⟨4⟩
def debuggable : Flags := ⟨8⟩
def bootComplete : Flags := ⟨16⟩
def profileGuided : Flags := ⟨32⟩
def ota : Flags := ⟨64⟩

instance : OrOp Flags := ⟨fun a b => ⟨a.bits ||| b.bits⟩⟩

/-- Whether every switch of `b` is on in `a`. -/
def contains (a b : Flags) : Bool := a.bits &&& b.bits == b.bits

@[simp] theorem bits_or (a b : Flags) : (a ||| b).bits = a.bits ||| b.bits := rfl

end Flags

end OtaCompile.Compiler
