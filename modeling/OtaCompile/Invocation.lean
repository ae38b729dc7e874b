import OtaCompile.OsText
import OtaCompile.InstructionSet
import OtaCompile.Compiler.Filter
import OtaCompile.Compiler.Flags

/-!
# Compiler invocations

One run of the compiler, for one code path and one instruction set, and the line of text it is
handed over as: nine fields with single spaces between them, `!` for an absent output directory
and for an empty list of libraries.  A path that is not text is written as far as it is.
-/

namespace OtaCompile

/-- An invocation with paths of some kind. -/
structure InvocationOver (P : Type) where
  codePath : P
  uid : UInt32
  packageName : String
  instructionSet : InstructionSet
  outputDir : Option P
  flags : Compiler.Flags
  filter : Compiler.Filter
  sharedLibraries : List P
deriving DecidableEq, Repr, Inhabited

def InvocationOver.map {P Q : Type} (f : P → Q) (i : InvocationOver P) : InvocationOver Q :=
  { i with
    codePath := f i.codePath
    outputDir := i.outputDir.map f
    sharedLibraries := i.sharedLibraries.map f }

abbrev Invocation := InvocationOver Path

/-- An invocation with any paths that the operating system can have. -/
abbrev RawInvocation := InvocationOver OsText

structure Command where
  text : String
deriving DecidableEq, Repr, Inhabited

instance : ToString Command := ⟨Command.text⟩

namespace Invocation

/-- The fields after the leading word, in order. -/
def arguments (i : Invocation) : List String :=
  [i.codePath.text,
   toString i.uid,
   i.packageName,
   Named.name i.instructionSet,
   (i.outputDir.map Path.text).getD "!",
   toString i.flags.bits,
   Named.name i.filter,
   if i.sharedLibraries.isEmpty then "!" else Text.join ':' (i.sharedLibraries.map Path.text)]

def command (i : Invocation) : Command := ⟨Text.join ' ' ("dexopt" :: i.arguments)⟩

end Invocation

def RawInvocation.command (i : RawInvocation) : Command :=
  Invocation.command (i.map OsText.toPath)

/-- What a session hands out when asked for its next command. -/
inductive NextCommand
  | command (c : Command)
  /-- No package and no command is left. -/
  | nothingToDo
deriving DecidableEq, Repr

namespace NextCommand

/-- The line that stands for the end of the work. -/
def sentinel : String := "Nothing to do"

def wireText : NextCommand → String
  | command c => c.text
  | nothingToDo => sentinel

def command? : NextCommand → Option Command
  | command c => some c
  | nothingToDo => none

end NextCommand

end OtaCompile
