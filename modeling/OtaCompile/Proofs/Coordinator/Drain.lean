import OtaCompile.Proofs.Device
import OtaCompile.Coordinator

/-!
# Going through a session

`drain` asks a coordinator for commands, past faults, until there is nothing to do; `compileEach`
has it compile packages instead, one a call.  Which call takes which package is of no matter to the
device: up to events of the session, both come to serving the packages one after the other, `drain`
to recording them (`drain_alike`) and `compileEach` to compiling them (`compileEach_alike`).
-/

namespace OtaCompile

open Procedure

variable {α σ : Type}

/-- What a call came to, and how many packages were pending behind it. -/
structure Returned (α : Type) where
  result : Except Fault α
  remaining : Nat

/-- The fault of a call, if any, with the number of packages behind the one it is about. -/
def Returned.faults {α : Type} (r : Returned α) : List (Nat × Fault) :=
  match r.result with
  | .error f => [(r.remaining, f)]
  | .ok _ => []

/-- The command that was handed out, if one was. -/
def Returned.command (r : Returned NextCommand) : List Command :=
  match r.result with
  | .ok (.command command) => [command]
  | _ => []

/-- The commands of a package that was recorded. -/
def Returned.commands (r : Returned (List Command)) : List Command :=
  match r.result with
  | .ok commands => commands
  | .error _ => []

namespace Session.Served

variable {s : Session} (r : s.Served)

/-- Nothing is to be had from the session any more. -/
def isLast : Bool :=
  match r.result, r.after with
  | .ok .nothingToDo, _ | _, .idle => true
  | _, _ => false

def returned : Returned NextCommand := ⟨r.result, r.after.remaining⟩

theorem smaller_of_not_last (h : ¬ r.isLast = true) : r.after.Smaller s := by
  obtain ⟨result, after, smaller, smaller_of_fault⟩ := r
  rcases result with f | c | _
  · rcases smaller_of_fault f rfl with rfl | hsmaller
    · exact absurd rfl h
    · exact hsmaller
  · exact smaller c rfl
  · exact absurd rfl h

end Session.Served

namespace Coordinator

/-! ## Calls after one another -/

/-- Ask for commands until nothing is to be had. -/
def drain (c : Coordinator) (s : Session) : Procedure (List (Returned NextCommand) × Session) :=
  c.next s >>= fun served =>
    if _h : served.isLast then return ([served.returned], served.after)
    else Prod.map (served.returned :: ·) id <$> drain c served.after
termination_by s
decreasing_by exact served.smaller_of_not_last _h

/-- Have packages compiled, a number of them. -/
def compileEach (c : Coordinator) : Nat → Session → Procedure (List (Returned Unit) × Session)
  | 0, s => return ([], s)
  | n + 1, s => c.nextPackage s >>= fun (r, s) =>
    Prod.map (⟨r, s.remaining⟩ :: ·) id <$> compileEach c n s

/-- Serve packages one after the other, each with the number of packages behind it. -/
def each (serve : Package → Nat → Procedure (Except Fault α)) :
    List Package → Procedure (List (Returned α))
  | [] => return []
  | p :: pending => serve p pending.length >>= fun r =>
    (⟨r, pending.length⟩ :: ·) <$> each serve pending

theorem length_each (serve : Package → Nat → Procedure (Except Fault α))
    (answer : (q : Device.Request) → σ → Device.Reply q × σ) (pending : List Package) (x : σ) :
    ((each serve pending).run answer x).1.length = pending.length := by
  induction pending generalizing x with
  | nil => rfl
  | cons p pending ih =>
    simp only [each, Dialogue.run_bind, Dialogue.run_map, List.length_cons, ih]

/-- Compile a package with `remaining` packages behind it. -/
def compilePackage (c : Coordinator) (p : Package) (remaining : Nat) :
    Procedure (Except Fault Unit) := do
  emit (PackageEvent.processing p.name .direct remaining)
  match ← c.compile p with
  | .error f => return .error f
  | .ok outcome =>
    emit (compileEvent p outcome)
    return .ok ()

/-- A session that is begun and drained. -/
def exporting (c : Coordinator) : Procedure (List (Returned NextCommand) × Session) :=
  c.prepare .new >>= fun (_, s) => c.drain s

/-- A session that is begun and has its packages compiled, one a call. -/
def compiling (c : Coordinator) : Procedure (List (Returned Unit) × Session) :=
  c.prepare .new >>= fun (_, s) => c.compileEach s.total s

/-- What is handed out for a package that was recorded. -/
def handOut (r : Returned (List Command)) : List (Returned NextCommand) :=
  match r.result with
  | .ok commands => commands.map fun command => ⟨.ok (.command command), r.remaining⟩
  | .error f => [⟨.error f, r.remaining⟩]

/-- What is handed out for packages that were recorded, and that there is nothing more to do. -/
def drained (rs : List (Returned (List Command))) : List (Returned NextCommand) :=
  rs.flatMap handOut ++ [⟨.ok .nothingToDo, 0⟩]

theorem handOut_commands (r : Returned (List Command)) :
    (handOut r).flatMap Returned.command = r.commands := by
  obtain ⟨f | commands, remaining⟩ := r
  · rfl
  · rw [handOut, List.flatMap_map]
    exact List.flatMap_singleton' commands

theorem handOut_faults (r : Returned (List Command)) :
    (handOut r).flatMap Returned.faults = r.faults := by
  obtain ⟨f | commands, remaining⟩ := r
  · rfl
  · rw [handOut, List.flatMap_map]
    exact List.flatMap_eq_nil_iff.mpr fun _ _ => rfl

theorem handOut_ne_nothingToDo (rs : List (Returned (List Command))) :
    ∀ r ∈ rs.flatMap handOut, r.result ≠ .ok .nothingToDo := by
  intro r hr
  obtain ⟨⟨f | commands, remaining⟩, -, hr⟩ := List.mem_flatMap.mp hr
  · rw [List.mem_singleton.mp hr]
    nofun
  · obtain ⟨command, -, rfl⟩ := List.mem_map.mp hr
    nofun

/-- What is seen of the calls of `drain` is seen of the packages that were recorded. -/
theorem flatMap_drained {α : Type} {f : Returned NextCommand → List α}
    {g : Returned (List Command) → List α} (hf : ∀ r, (handOut r).flatMap f = g r)
    (hlast : f ⟨.ok .nothingToDo, 0⟩ = []) (rs : List (Returned (List Command))) :
    (drained rs).flatMap f = rs.flatMap g := by
  rw [drained, List.flatMap_append, List.flatMap_assoc, List.flatMap_singleton, hlast,
    List.append_nil]
  exact congrArg (rs.flatMap ·) (funext hf)

/-! ## Serving -/

variable {answer : (q : Device.Request) → σ → Device.Reply q × σ}
  (hdeaf : Device.Deaf answer) (c : Coordinator)
include hdeaf

theorem emitIfExhausted_alike (s : Session) : Alike answer (emitIfExhausted s) (pure ()) := by
  unfold emitIfExhausted
  split
  · exact alike_emit hdeaf _
  · exact .refl _

/-! ## Commands -/

/-- What `next` does behind the call to the session are events of the session. -/
theorem next_alike (s : Session) : Alike answer (c.next s) (s.next c.recordPackage) := by
  refine .trans (.bind (.refl _) fun served => ?_) (.of_eq (bind_pure _))
  split
  · exact (alike_emit hdeaf _).bind_of_pure _
  · split
    · exact (emitIfExhausted_alike hdeaf _).bind_of_pure _
    · exact .refl _
  · exact .refl _

/-- What `drain` does behind a call. -/
def onward (c : Coordinator) {s : Session} (served : s.Served) :
    Procedure (List (Returned NextCommand) × Session) :=
  if served.isLast then return ([served.returned], served.after)
  else Prod.map (served.returned :: ·) id <$> c.drain served.after

theorem drain_next (s : Session) :
    Alike answer (c.drain s) (s.next c.recordPackage >>= c.onward) := by
  rw [drain]
  exact (next_alike hdeaf c s).bind fun served => .refl _

/-- Commands of the package being served are handed out first. -/
theorem drain_queue (pending : List Package) (queue : List Command) (total : Nat) :
    Alike answer (c.drain (.prepared ⟨pending, Work.queueOf queue, total⟩))
      (Prod.map (handOut ⟨.ok queue, pending.length⟩ ++ ·) id <$>
        c.drain (.prepared ⟨pending, none, total⟩)) := by
  induction queue with
  | nil => exact .of_eq (id_map _).symm
  | cons command queue ih =>
    refine (drain_next hdeaf c _).trans ?_
    rw [Work.queueOf_cons, Session.next, Session.serve, pure_bind]
    refine (ih.map _).trans (.of_eq ?_)
    rw [Functor.map_map]
    rfl

theorem drain_package (p : Package) (pending : List Package) (total : Nat) :
    Alike answer (c.drain (.prepared ⟨p :: pending, none, total⟩))
      (c.recordPackage p pending.length >>= fun r =>
        Prod.map (handOut ⟨r, pending.length⟩ ++ ·) id <$>
          c.drain (.prepared ⟨pending, none, total⟩)) := by
  refine (drain_next hdeaf c _).trans ?_
  rw [Session.next, Session.serve_cons_none, bind_assoc]
  refine .bind (.refl _) fun r => ?_
  cases r with
  | error f => exact .refl _
  | ok commands =>
    rw [Session.serveAnswered, bind_map_left]
    exact (drain_next hdeaf c (.prepared ⟨pending, Work.queueOf commands, total⟩)).symm.trans
      (drain_queue hdeaf c pending commands total)

/-- Draining comes to recording all packages. -/
theorem drain_alike (pending : List Package) (total : Nat) :
    Alike answer (c.drain (.prepared ⟨pending, none, total⟩))
      ((fun rs => (drained rs, .prepared ⟨[], none, total⟩)) <$> each c.recordPackage pending) := by
  induction pending with
  | nil => exact drain_next hdeaf c _
  | cons p pending ih =>
    refine (drain_package hdeaf c p pending total).trans ?_
    rw [each, map_bind]
    refine .bind (.refl _) fun r => (ih.map _).trans (.of_eq ?_)
    rw [Functor.map_map, Functor.map_map]
    simp only [drained, Prod.map, List.flatMap_cons, List.append_assoc, id]

/-! ## Compiling -/

theorem nextPackage_alike (p : Package) (pending : List Package) (total : Nat) :
    Alike answer (c.nextPackage (.prepared ⟨p :: pending, none, total⟩))
      ((·, .prepared ⟨pending, none, total⟩) <$> c.compilePackage p pending.length) := by
  unfold nextPackage compilePackage
  rw [map_bind]
  refine .bind (.refl _) fun _ => ?_
  rw [map_bind]
  refine .bind (.refl _) fun compiled => ?_
  cases compiled with
  | error f => exact .refl _
  | ok outcome =>
    simp only [map_bind]
    refine .bind (.refl _) fun _ => ?_
    exact (emitIfExhausted_alike hdeaf _).bind_of_pure _

/-- Calls for all packages come to compiling them. -/
theorem compileEach_alike (pending : List Package) (total : Nat) :
    Alike answer (c.compileEach pending.length (.prepared ⟨pending, none, total⟩))
      ((·, .prepared ⟨[], none, total⟩) <$> each c.compilePackage pending) := by
  induction pending with
  | nil => exact .refl _
  | cons p pending ih =>
    refine ((nextPackage_alike hdeaf c p pending total).bind fun _ => .refl _).trans ?_
    rw [each, map_bind, bind_map_left]
    refine .bind (.refl _) fun r => (ih.map _).trans (.of_eq ?_)
    rw [Functor.map_map, Functor.map_map]
    rfl

/-! ## Sessions -/

theorem prepare_alike :
    Alike answer (c.prepare .new) (pure (.ok (), .prepared
      ⟨c.registry.forDexopt, none, c.registry.forDexopt.length⟩)) :=
  (alike_emit hdeaf _).bind_of_pure _

theorem exporting_alike :
    Alike answer c.exporting ((fun rs => (drained rs,
        .prepared ⟨[], none, c.registry.forDexopt.length⟩)) <$>
      each c.recordPackage c.registry.forDexopt) :=
  ((prepare_alike hdeaf c).bind fun _ => .refl _).trans (drain_alike hdeaf c _ _)

theorem compiling_alike :
    Alike answer c.compiling ((·, .prepared ⟨[], none, c.registry.forDexopt.length⟩) <$>
      each c.compilePackage c.registry.forDexopt) :=
  ((prepare_alike hdeaf c).bind fun _ => .refl _).trans (compileEach_alike hdeaf c _ _)

end Coordinator

end OtaCompile
