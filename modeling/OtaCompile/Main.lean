import OtaCompile.Console.Program
import OtaCompile.Host.Account
import OtaCompile.Host.OsError
import OtaCompile.Toml

/-!
# Entry point

The only part that does anything: it answers the program's requests with the files, the clock and
the output of the machine it runs on.  Sizes of volumes and other programs are out of its reach, and
it says so.
-/

namespace OtaCompile

namespace Host

def failureOf (e : IO.Error) : IoFailure :=
  match e with
  | .noFileOrDirectory .. => OsError.noEntry.failure
  | .permissionDenied .. => OsError.accessDenied.failure
  | .alreadyExists .. => OsError.present.failure
  | .inappropriateType .. => OsError.notADirectory.failure
  | .unsatisfiedConstraints .. => OsError.notEmpty.failure
  | e => ⟨.other, e.toString⟩

def attempt {α : Type} (act : IO α) : IO (Except IoFailure α) := do
  match ← act.toBaseIO with
  | .ok a => return .ok a
  | .error e => return .error (failureOf e)

/-- A directory can be opened, but only a file can be read. -/
def canRead (path : Path) : IO Bool := do
  return (← attempt (IO.FS.readBinFile path.text)).toBool

def canOpen (path : Path) : IO Bool := do
  return (← attempt (IO.FS.Handle.mk path.text .read)).toBool

def accountHome : IO (Option Path) := do
  let status ← attempt (IO.FS.readFile "/proc/self/status")
  let accounts ← attempt (IO.FS.readFile "/etc/passwd")
  return do homeOf? (← userNumber? (← status.toOption)) (← accounts.toOption)

def machineAnswer : (q : Request) → IO (Reply q)
  | .readText path => attempt (IO.FS.readFile path.text)
  | .isPresent path => canOpen path
  | .isFile path => canRead path
  | .makeDirs path => attempt (IO.FS.createDirAll path.text)
  | .rename source target => attempt (IO.FS.rename source.text target.text)
  | .volumeSize _ => return .error OsError.notImplemented.failure
  | .spawn _ _ => return .error OsError.notImplemented.failure
  | .accountHome => accountHome
  | .clock => IO.monoMsNow
  | .print line => IO.println line
  | .warn line | .log line => IO.eprintln line

end Host

/-- The variables the program looks at. -/
def variableNames : List String :=
  ["XDG_CONFIG_HOME", "HOME", "OTADEX_MANIFEST", "OTADEX_OUTPUT", "OTADEX_DATA_DIR",
    "OTADEX_LOW_SPACE_BYTES", "OTADEX_COMPILER_FILTER", "CLICOLOR_FORCE"]

def readEnvironment : IO Environment := do
  let values ← variableNames.mapM fun name => return (name, ← IO.getEnv name)
  return fun name => (values.lookup name).join.map OsText.ofText

def library : Console.Library where
  read := Toml.read?
  usage := ["A/B OTA dexopt coordinator"]

end OtaCompile

def main (arguments : List String) : IO UInt32 := do
  let env ← OtaCompile.readEnvironment
  let program := OtaCompile.Console.program OtaCompile.library env arguments
  program.interpret OtaCompile.Host.machineAnswer
