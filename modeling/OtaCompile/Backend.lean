import OtaCompile.Dialogue
import OtaCompile.Invocation
import OtaCompile.Fault

/-!
# Backends

What a compiler backend can be asked, and the backend that compiles nothing but takes down the
commands it is given.
-/

namespace OtaCompile.Backend

inductive Request
  | execute (i : Invocation)
  | waitForConnection
  | disconnect
  | mergeProfiles (uid : UInt32) (package : String)
  | dumpProfiles (gid : UInt32) (package : String) (codePaths : List Path)
deriving DecidableEq, Repr

/-- Questions about profiles are answered with whether there is something to compile anew. -/
@[reducible] def Reply : Request → Type
  | .execute _ | .waitForConnection | .disconnect => Except BackendFault Unit
  | .mergeProfiles _ _ | .dumpProfiles _ _ _ => Except BackendFault Bool

abbrev Talk := Dialogue Reply

def Request.name : Request → String
  | execute _ => "execute"
  | waitForConnection => "wait_for_connection"
  | disconnect => "disconnect"
  | mergeProfiles _ _ => "merge_profiles"
  | dumpProfiles _ _ _ => "dump_profiles"

/-- A reply that refuses the request. -/
def refuse (f : BackendFault) : (q : Request) → Reply q
  | .execute _ | .waitForConnection | .disconnect => .error f
  | .mergeProfiles _ _ | .dumpProfiles _ _ _ => .error f

/-- A reply that grants the request, with `yes` where it is about profiles. -/
def grant (yes : Bool) : (q : Request) → Reply q
  | .execute _ | .waitForConnection | .disconnect => .ok ()
  | .mergeProfiles _ _ | .dumpProfiles _ _ _ => .ok yes

/-! ### Recording -/

/-- Take down the command of an invocation; refuse everything else. -/
def record : (q : Request) → List Command → Reply q × List Command
  | .execute i, taken => (.ok (), taken ++ [i.command])
  | q, taken => (refuse (.unsupported "recording" q.name) q, taken)

/-- The value of a talk with a fresh recording backend and the commands it took down. -/
def recorded {α : Type} (t : Talk α) : α × List Command := t.run record []

end OtaCompile.Backend
