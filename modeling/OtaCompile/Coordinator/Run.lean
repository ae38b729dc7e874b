import OtaCompile.Coordinator

/-!
# Whole runs

A run begins a session, works through it and ends it, whatever happens meanwhile.  An export stops
early once it has as many commands as it may; it comes to an end because each command leaves a
smaller session.
-/

namespace OtaCompile.Coordinator

/-- Ask for commands until there are `limit` more, nothing is left or something fails. -/
def collect (c : Coordinator) (limit : Option Nat) (taken : List Command) (s : Session) :
    Procedure (Except Fault (List Command) × Session) :=
  if limit = some 0 then return (.ok taken, s)
  else c.next s >>= fun served =>
    match _h : served.result with
    | .ok (.command command) =>
      collect c (limit.map (· - 1)) (taken ++ [command]) served.after
    | .ok .nothingToDo => return (.ok taken, served.after)
    | .error f => return (.error f, served.after)
termination_by s
decreasing_by exact served.smaller _ _h

/-- The commands of a session of its own, at most `limit`, and the number of its packages. -/
def exportCommands (c : Coordinator) (limit : Option Nat) (s : Session) :
    Procedure (Except Fault (List Command × Nat) × Session) := do
  match ← c.prepare s with
  | (.error f, s) => return (.error f, s)
  | (.ok (), s) =>
    let total := s.total
    let (result, s) ← c.collect limit [] s
    let s ← cleanup s
    return (result.map fun commands => (commands, total), s)

/-- Compile packages until none is left or something fails, but at most `bound` of them. -/
def compileMany (c : Coordinator) :
    (bound : Nat) → Session → Procedure (Except Fault Unit × Session)
  | 0, s => return (.ok (), s)
  | bound + 1, s =>
    match s.isDone with
    | .error f => return (.error f, s)
    | .ok true => return (.ok (), s)
    | .ok false => do
      match ← c.nextPackage s with
      | (.error f, s) => return (.error f, s)
      | (.ok (), s) => compileMany c bound s

/-- Compile all packages in a session of its own; the result is their number. -/
def compileAll (c : Coordinator) (s : Session) : Procedure (Except Fault Nat × Session) := do
  match ← c.prepare s with
  | (.error f, s) => return (.error f, s)
  | (.ok (), s) =>
    let total := s.total
    let (result, s) ← c.compileMany (total + 1) s
    let s ← cleanup s
    return (result.map fun _ => total, s)

end OtaCompile.Coordinator
