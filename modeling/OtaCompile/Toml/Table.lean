import OtaCompile.Json

/-!
# Tables under construction

A document names its tables by headers and by dotted keys, in any order, but each table only once.
A `Node` remembers how a table came about, since that decides what may still be added to it.
-/

namespace OtaCompile.Toml

/-- How a table came about. -/
inductive Origin
  /-- It has a header of its own, or is the document. -/
  | header
  /-- A header names a table below it. -/
  | implied
  /-- A dotted key names a value below it. -/
  | dotted
deriving DecidableEq, Repr, Inhabited

inductive Node
  /-- A value; what is inside it is closed. -/
  | leaf (j : Json)
  | table (origin : Origin) (members : List (String × Node))
  /-- An array of tables, one header each, the newest first. -/
  | tables (newest : Node) (older : List Node)
deriving Inhabited

namespace Node

def member? (members : List (String × Node)) (key : String) : Option Node := members.lookup key

/-- Replace a member in its place, or add it behind the others. -/
def setMember (key : String) (n : Node) : List (String × Node) → List (String × Node)
  | [] => [(key, n)]
  | (k, old) :: ms => if k == key then (k, n) :: ms else (k, old) :: setMember key n ms

/-- Change the table that a path leads to.  Missing tables on the way come about as `origin` says;
an array of tables stands for its newest; a dotted key enters no table that has a header. -/
def alterAt (origin : Origin) (f : Node → Option Node) : List String → Node → Option Node
  | [], n => f n
  | key :: path, .table o members =>
    match member? members key with
    | none => do
      let child ← alterAt origin f path (.table origin [])
      return .table o (setMember key child members)
    | some (.table .header ms) => do
      if origin = .dotted then none
      let child ← alterAt origin f path (.table .header ms)
      return .table o (setMember key child members)
    | some (.table other ms) => do
      let child ← alterAt origin f path (.table other ms)
      return .table o (setMember key child members)
    | some (.tables newest older) => do
      let child ← alterAt origin f path newest
      return .table o (setMember key (.tables child older) members)
    | some (.leaf _) => none
  | _ :: _, _ => none

/-- Put a value under the last part of a key.  A table that dotted keys fill takes values from
dotted keys alone, and any other table from plain keys alone. -/
def putLeaf (isDotted : Bool) (key : String) (j : Json) : Node → Option Node
  | .table o members =>
    if (o == .dotted) == isDotted && (member? members key).isNone then
      some (.table o (setMember key (.leaf j) members))
    else none
  | _ => none

/-- Put a value under a key, dotted or not. -/
def put (key : List String) (j : Json) (n : Node) : Option Node :=
  match key.getLast? with
  | none => none
  | some last =>
    let path := key.dropLast
    alterAt .dotted (putLeaf (!path.isEmpty) last j) path n

/-- Begin the table of a header: it must be new, or only implied so far. -/
def beginTable (last : String) : Node → Option Node
  | .table o members =>
    match member? members last with
    | none => some (.table o (setMember last (.table .header []) members))
    | some (.table .implied ms) => some (.table o (setMember last (.table .header ms) members))
    | some _ => none
  | _ => none

/-- Begin one more table of an array of tables. -/
def beginItem (last : String) : Node → Option Node
  | .table o members =>
    match member? members last with
    | none => some (.table o (setMember last (.tables (.table .header []) []) members))
    | some (.tables newest older) =>
      some (.table o (setMember last (.tables (.table .header []) (newest :: older)) members))
    | some _ => none
  | _ => none

/-- Begin what a header names. -/
def begin? (isItem : Bool) (key : List String) (n : Node) : Option Node :=
  match key.getLast? with
  | none => none
  | some last =>
    alterAt .implied (if isItem then beginItem last else beginTable last) key.dropLast n

/-- Put a value under a key in the table that a header has begun. -/
def putUnder (header : List String) (key : List String) (j : Json) (n : Node) : Option Node :=
  alterAt .implied (put key j) header n

mutual

def toJson : Node → Json
  | .leaf j => j
  | .table _ members => .obj (membersToJson members)
  | .tables newest older => .arr (itemsToJson older [toJson newest])

def membersToJson : List (String × Node) → List (String × Json)
  | [] => []
  | (k, n) :: ms => (k, toJson n) :: membersToJson ms

def itemsToJson : List Node → List Json → List Json
  | [], done => done
  | n :: ns, done => itemsToJson ns (toJson n :: done)

end

end Node

end OtaCompile.Toml
