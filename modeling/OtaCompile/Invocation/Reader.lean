import OtaCompile.Invocation
import OtaCompile.Text.Decimal

/-!
# Reading commands

A command is read back field by field.  Commands know no quoting: a text that holds a separator is
cut at it, and a lone `!` stands for what is absent.
-/

namespace OtaCompile.Command

def read32 (field : String) : Option UInt32 :=
  (Text.readBelow UInt32.size field.toList).map UInt32.ofNat

def readOutputDir (field : String) : Option Path := if field = "!" then none else some ⟨field⟩

def readLibraries (field : String) : List Path :=
  if field = "!" then [] else (Text.split ':' field).map Path.mk

/-- The invocation that a command stands for: nine fields, of which the first is the leading word
and the numbers and names can be read. -/
def invocation? (c : Command) : Option Invocation :=
  match Text.split ' ' c.text with
  | ["dexopt", codePath, uid, packageName, isa, outputDir, flags, filter, libraries] => do
    return {
      codePath := ⟨codePath⟩
      uid := ← read32 uid
      packageName
      instructionSet := ← Named.ofName? isa
      outputDir := readOutputDir outputDir
      flags := ⟨← read32 flags⟩
      filter := ← Named.ofName? filter
      sharedLibraries := readLibraries libraries }
  | _ => none

/-- The same with the bytes of paths. -/
def rawInvocation? (c : Command) : Option RawInvocation :=
  c.invocation?.map (·.map OsText.ofPath)

end OtaCompile.Command
