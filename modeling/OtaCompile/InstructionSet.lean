import OtaCompile.Naming

/-!
# Instruction sets

The instruction sets that packages run on, and the table that says for which of them their code is
compiled.  `dexCode` translates a list and keeps the first occurrence of each result.
-/

namespace OtaCompile

inductive InstructionSet
  | arm
  | arm64
  | x86
  | x86_64
  | mips
  | mips64
deriving DecidableEq, Repr, Inhabited

namespace InstructionSet

instance : Named InstructionSet where
  all := [arm, arm64, x86, x86_64, mips, mips64]
  name
    | arm => "arm"
    | arm64 => "arm64"
    | x86 => "x86"
    | x86_64 => "x86_64"
    | mips => "mips"
    | mips64 => "mips64"
  find_name a := by cases a <;> rfl

instance : ToString InstructionSet := ⟨Named.name⟩

/-- The instruction set of the machine that coordinates. -/
def host : InstructionSet := x86_64

end InstructionSet

/-- Which instruction set code is compiled for, where it differs from the one it runs on. -/
structure Translation where
  target : InstructionSet → Option InstructionSet

namespace Translation

instance : EmptyCollection Translation := ⟨⟨fun _ => none⟩⟩

instance : Inhabited Translation := ⟨∅⟩

/-- An instruction set the table leaves out stands for itself. -/
def apply (t : Translation) (isa : InstructionSet) : InstructionSet := (t.target isa).getD isa

def insert (t : Translation) (native dex : InstructionSet) : Translation :=
  ⟨fun isa => if isa = native then some dex else t.target isa⟩

def ofList (entries : List (InstructionSet × InstructionSet)) : Translation :=
  entries.foldl (fun t e => t.insert e.1 e.2) ∅

def toList (t : Translation) : List (InstructionSet × InstructionSet) :=
  Named.all.filterMap fun isa => (t.target isa).map fun dex => (isa, dex)

def addNew (seen : List InstructionSet) (isa : InstructionSet) : List InstructionSet :=
  if isa ∈ seen then seen else seen ++ [isa]

/-- The instruction sets compiled for, each once, in order of first need. -/
def dexCode (t : Translation) (native : List InstructionSet) : List InstructionSet :=
  native.foldl (fun seen isa => addNew seen (t.apply isa)) []

@[simp] theorem apply_empty (isa : InstructionSet) : (∅ : Translation).apply isa = isa := rfl

@[simp] theorem dexCode_nil (t : Translation) : t.dexCode [] = [] := rfl

theorem dexCode_concat (t : Translation) (native : List InstructionSet) (isa : InstructionSet) :
    t.dexCode (native ++ [isa]) = addNew (t.dexCode native) (t.apply isa) := by
  simp [dexCode, List.foldl_append]

end Translation

end OtaCompile
