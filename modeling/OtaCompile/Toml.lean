import OtaCompile.Toml.Scalar
import OtaCompile.Toml.Table

/-!
# Configuration documents

`Toml.read?` reads a document of key-value lines and table headers as a JSON object, or finds it
malformed.  A key is set only once, and a table has only one header.
-/

namespace OtaCompile.Toml

/-- How deep arrays and inline tables may be nested. -/
def maxDepth : Nat := 80

mutual

/-- A value: a string, an array, an inline table or a scalar. -/
def value? (fuel depth : Nat) (cs : List Char) : Option (Json × List Char) :=
  match fuel, cs with
  | 0, _ => none
  | fuel + 1, '[' :: cs => if depth = 0 then none else items? fuel (depth - 1) [] cs
  | fuel + 1, '{' :: cs =>
    if depth = 0 then none else members? fuel (depth - 1) (.table .header []) cs
  | _, '"' :: _ | _, '\'' :: _ => (string? cs).map fun (s, rest) => (.str s, rest)
  | _, _ => scalar? cs

/-- The items of an array, a comma after each but perhaps the last. -/
def items? (fuel depth : Nat) (done : List Json) (cs : List Char) : Option (Json × List Char) :=
  match fuel, skipSpace cs with
  | 0, _ => none
  | _, ']' :: cs => some (.arr done.reverse, cs)
  | fuel + 1, cs => do
    let (j, cs) ← value? fuel depth cs
    match skipSpace cs with
    | ',' :: cs => items? fuel depth (j :: done) cs
    | ']' :: cs => some (.arr (j :: done).reverse, cs)
    | _ => none

/-- The members of an inline table, a comma after each but perhaps the last. -/
def members? (fuel depth : Nat) (done : Node) (cs : List Char) : Option (Json × List Char) :=
  match fuel, skipSpace cs with
  | 0, _ => none
  | _, '}' :: cs => some (done.toJson, cs)
  | fuel + 1, cs => do
    let (key, cs) ← key? cs
    let '=' :: cs := skipSpace cs | none
    let (j, cs) ← value? fuel depth (skipSpace cs)
    let done ← done.put key j
    match skipSpace cs with
    | ',' :: cs => members? fuel depth done cs
    | '}' :: cs => some (done.toJson, cs)
    | _ => none

end

/-- Fuel for any value at the front of a text: two calls per character at most. -/
def valueFuel (cs : List Char) : Nat := 2 * cs.length + 2

/-- What is read of a document so far: its tables and the header in force. -/
structure Draft where
  root : Node := .table .header []
  header : List String := []

/-- The rest of a header after its key. -/
def afterHeader? (isItem : Bool) : List Char → Option (List Char)
  | ']' :: cs =>
    if isItem then match cs with
      | ']' :: cs => some cs
      | _ => none
    else some cs
  | _ => none

def header? (isItem : Bool) (p : Draft) (cs : List Char) : Option (Draft × List Char) := do
  let (key, cs) ← key? cs
  let cs ← afterHeader? isItem cs
  let root ← p.root.begin? isItem key
  return (⟨root, key⟩, ← afterLine? cs)

def keyValue? (p : Draft) (cs : List Char) : Option (Draft × List Char) := do
  let (key, cs) ← key? cs
  let '=' :: cs := cs | none
  let cs := skipBlanks cs
  let (j, cs) ← value? (valueFuel cs) maxDepth cs
  let root ← p.root.putUnder p.header key j
  return (⟨root, p.header⟩, ← afterLine? cs)

/-- One line of a document. -/
def line? (p : Draft) (cs : List Char) : Option (Draft × List Char) :=
  match skipBlanks cs with
  | [] | '#' :: _ | '\n' :: _ | '\r' :: _ => (afterLine? cs).map fun cs => (p, cs)
  | '[' :: '[' :: cs => header? true p cs
  | '[' :: cs => header? false p cs
  | cs => keyValue? p cs

def lines? : Nat → Draft → List Char → Option Draft
  | _, p, [] => some p
  | 0, _, _ => none
  | fuel + 1, p, cs => do
    let (p, cs) ← line? p cs
    lines? fuel p cs

def withoutMark : List Char → List Char
  | '\ufeff' :: cs => cs
  | cs => cs

def read? (s : String) : Option Json :=
  let cs := withoutMark s.toList
  (lines? (cs.length + 1) {} cs).map fun p => p.root.toJson

end OtaCompile.Toml
