import OtaCompile.Backend
import OtaCompile.Host
import OtaCompile.Text.Blank

/-!
# The helper program

A backend that runs a helper program once per request.  Commands are handed over as the words of
their text; questions about profiles are answered by the exit code, zero for yes and one for no.
-/

namespace OtaCompile.Host

/-- A program with its arguments, as a user would write it. -/
def commandLine (program : Path) (arguments : List String) : String :=
  Text.join ' ' (program.text :: arguments)

def spawnFault (program : Path) (arguments : List String) (f : IoFailure) : PlatformFault :=
  match f.kind with
  | .notFound => .commandNotFound program.text
  | .permissionDenied => .permission (commandLine program arguments) f.message
  | _ => .process (commandLine program arguments) f.message

/-- Run the helper; a run that was ended by a signal has the exit code -1. -/
def runHelper (program : Path) (arguments : List String) : Job (Except BackendFault Int32) := do
  match ← Dialogue.question (Request.spawn program arguments) with
  | .error f => return .error (spawnFault program arguments f).toBackend
  | .ok code => return .ok (code.getD (-1))

/-- Run the helper for the sake of a command: any exit code but zero is a failure of `command`. -/
def runFor (command : String) (program : Path) (arguments : List String) :
    Job (Except BackendFault Unit) := do
  match ← runHelper program arguments with
  | .error f => return .error f
  | .ok code => return if code = 0 then .ok () else .error (.commandFailed command code)

/-- Run the helper as a question. -/
def runQuestion (program : Path) (arguments : List String) : Job (Except BackendFault Bool) := do
  match ← runHelper program arguments with
  | .error f => return .error f
  | .ok code =>
    return if code = 0 then .ok true
      else if code = 1 then .ok false
      else .error (.commandFailed (commandLine program arguments) code)

/-- The answers of the helper; only a program named by an absolute path is looked for in advance. -/
def helperAnswer (program : Path) : (q : Backend.Request) → Job (Backend.Reply q)
  | .execute i => runFor i.command.text program (Text.words i.command.text)
  | .waitForConnection => do
    if program.isAbsolute then
      if ← isFile program then return .ok ()
      else return .error (.connection (program.text ++ " does not exist"))
    else return .ok ()
  | .disconnect => return .ok ()
  | .mergeProfiles uid package => runQuestion program ["merge-profiles", toString uid, package]
  | .dumpProfiles gid package codePaths =>
    runQuestion program
      ["dump-profiles", toString gid, package, Text.join ':' (codePaths.map Path.text)]

end OtaCompile.Host
