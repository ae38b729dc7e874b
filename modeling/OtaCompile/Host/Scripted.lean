import OtaCompile.FileTree
import OtaCompile.Host

/-!
# Scripted hosts

A host made of a file tree and a few programs, whose volumes all have one size and whose clock
stands still.  It keeps what was written to it and which programs were run.
-/

namespace OtaCompile.Host

/-- A program that can be run, by the place of its file. -/
structure Program where
  place : Place
  /-- Its exit code for given arguments, a byte, unless a signal ends it. -/
  exitCode : List String → Option UInt8

/-- What is written beside the output. -/
inductive Notice
  | line (text : String)
  | record (text : String)
deriving DecidableEq, Repr

structure Scripted where
  tree : FileTree
  /-- The working directory. -/
  here : Place
  programs : List Program := []
  /-- The directories in which a program named by a bare name is looked for. -/
  searchPath : List Place := []
  /-- The home directory of the account. -/
  home : Option Path := none
  volume : VolumeSize
  /-- The place and the arguments of each program run. -/
  runs : List (Place × List String) := []
  output : List String := []
  notices : List Notice := []

namespace Scripted

def hasNul (s : String) : Bool := s.toList.contains '\x00'

/-- A path with a NUL character is refused before it reaches the system. -/
def nulInPath : IoFailure := ⟨.invalidInput, "file name contained an unexpected NUL byte"⟩

def refusingNul {α : Type} (p : Path) (r : Except IoFailure α) : Except IoFailure α :=
  if hasNul p.text then .error nulInPath else r

def readText (h : Scripted) (p : Path) : Except IoFailure String :=
  refusingNul p <|
    match h.tree.entryAt h.here p with
    | .error e => .error e.failure
    | .ok .dir => .error OsError.isADirectory.failure
    | .ok (.file content) =>
      match String.fromUTF8? ⟨content.toArray⟩ with
      | some text => .ok text
      | none => .error ⟨.invalidData, "stream did not contain valid UTF-8"⟩

def isPresent (h : Scripted) (p : Path) : Bool :=
  !hasNul p.text && (h.tree.entryAt h.here p).toBool

def isFile (h : Scripted) (p : Path) : Bool := !hasNul p.text && h.tree.isFile h.here p

def makeDirs (h : Scripted) (p : Path) : Except IoFailure Unit × Scripted :=
  if hasNul p.text then (.error nulInPath, h)
  else
    let (result, tree) := h.tree.makeDirs h.here p
    (result.mapError OsError.failure, { h with tree })

def rename (h : Scripted) (source target : Path) : Except IoFailure Unit × Scripted :=
  if hasNul source.text || hasNul target.text then (.error nulInPath, h)
  else match h.tree.rename h.here source target with
    | .ok tree => (.ok (), { h with tree })
    | .error e => (.error e.failure, h)

def volumeSize (h : Scripted) (p : Path) : Except IoFailure VolumeSize :=
  refusingNul p <|
    match h.tree.entryAt h.here p with
    | .ok _ => .ok h.volume
    | .error e => .error e.failure

/-! ### Programs -/

/-- The program in a file. -/
def programAt (h : Scripted) (p : Path) : Except OsError Program := do
  let place ← h.tree.locate h.here p
  match h.programs.find? fun program => program.place == place with
  | some program => .ok program
  | none => .error .accessDenied

/-- The program of a bare name: the first that is found; if there is none, a file that is no program
is reported. -/
def programNamed (h : Scripted) (name : String) : List Place → Except OsError Program
  | [] => .error .noEntry
  | dir :: dirs =>
    match h.programAt ⟨"/" ++ Text.join '/' (dir ++ [name])⟩ with
    | .ok program => .ok program
    | .error .accessDenied =>
      match programNamed h name dirs with
      | .ok program => .ok program
      | .error _ => .error .accessDenied
    | .error _ => programNamed h name dirs

def findProgram (h : Scripted) (p : Path) : Except OsError Program :=
  if p.text.isEmpty then .error .noEntry
  else if p.text.toList.contains '/' then h.programAt p
  else if p.text.utf8ByteSize > FileTree.maxNameBytes then .error .nameTooLong
  else h.programNamed p.text h.searchPath

def spawn (h : Scripted) (p : Path) (arguments : List String) :
    Except IoFailure (Option Int32) × Scripted :=
  if hasNul p.text || arguments.any hasNul then
    (.error ⟨.invalidInput, "nul byte found in provided data"⟩, h)
  else match h.findProgram p with
    | .error e => (.error e.failure, h)
    | .ok program =>
      let code := (program.exitCode arguments).map fun c => Int32.ofNat c.toNat
      (.ok code, { h with runs := h.runs ++ [(program.place, arguments)] })

/-! ### All requests -/

def answer : (q : Request) → Scripted → Reply q × Scripted
  | .readText p, h => (h.readText p, h)
  | .isPresent p, h => (h.isPresent p, h)
  | .isFile p, h => (h.isFile p, h)
  | .makeDirs p, h => h.makeDirs p
  | .rename source target, h => h.rename source target
  | .volumeSize p, h => (h.volumeSize p, h)
  | .spawn p arguments, h => h.spawn p arguments
  | .accountHome, h => (h.home, h)
  | .clock, h => (0, h)
  | .print line, h => ((), { h with output := h.output ++ [line] })
  | .warn line, h => ((), { h with notices := h.notices ++ [.line line] })
  | .log record, h => ((), { h with notices := h.notices ++ [.record record] })

/-- The value of a job and the host it leaves behind. -/
def run {α : Type} (t : Job α) (h : Scripted) : α × Scripted := Dialogue.run answer t h

end Scripted

end OtaCompile.Host
