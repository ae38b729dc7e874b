import OtaCompile.Dialogue
import OtaCompile.Fault

/-!
# The host

What the coordinator asks of the operating system, and of whoever reads its output.
-/

namespace OtaCompile

namespace Host

/-- The size of a volume, in fragments. -/
structure VolumeSize where
  blocks : UInt64
  /-- Blocks that are free. -/
  available : UInt64
  /-- Bytes of a block. -/
  fragment : UInt64
deriving DecidableEq, Repr, Inhabited

inductive Request
  /-- The whole text of a file. -/
  | readText (path : Path)
  /-- Whether there is anything at a path. -/
  | isPresent (path : Path)
  /-- Whether there is a regular file at a path. -/
  | isFile (path : Path)
  /-- Make a directory and those above it, as far as they are missing. -/
  | makeDirs (path : Path)
  /-- Give a regular file another name, in place of any file that has it. -/
  | rename (source target : Path)
  | volumeSize (path : Path)
  /-- Run a program to its end. -/
  | spawn (program : Path) (arguments : List String)
  /-- The home directory of the account that the program runs for. -/
  | accountHome
  /-- Milliseconds since some time in the past. -/
  | clock
  /-- Write a line to the standard output. -/
  | print (line : String)
  /-- Write a line to the standard error output. -/
  | warn (line : String)
  /-- Write a record to the log. -/
  | log (record : String)
deriving DecidableEq, Repr

/-- A program that ran has an exit code, unless a signal ended it. -/
@[reducible] def Reply : Request → Type
  | .readText _ => Except IoFailure String
  | .isPresent _ | .isFile _ => Bool
  | .makeDirs _ | .rename _ _ => Except IoFailure Unit
  | .volumeSize _ => Except IoFailure VolumeSize
  | .spawn _ _ => Except IoFailure (Option Int32)
  | .accountHome => Option Path
  | .clock => Nat
  | .print _ | .warn _ | .log _ => Unit

/-- A program that runs on a host. -/
abbrev Job := Dialogue Reply

def isFile (path : Path) : Job Bool := .question (Request.isFile path)

def print (line : String) : Job Unit := .question (Request.print line)

def warn (line : String) : Job Unit := .question (Request.warn line)

def log (record : String) : Job Unit := .question (Request.log record)

def printLines : List String → Job Unit
  | [] => return
  | line :: lines => do
    print line
    printLines lines

end Host

end OtaCompile
