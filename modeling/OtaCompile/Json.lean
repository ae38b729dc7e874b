/-!
# JSON values

A number is either an `int` or a `real`; a real keeps only its spelling, since no datum here is one.
Members of an object keep their order.  `pretty` writes two spaces of indentation per level,
`compact` writes everything on one line.
-/

namespace OtaCompile

inductive Json
  | null
  | bool (b : Bool)
  | int (n : Int)
  | real (spelling : String)
  | str (s : String)
  | arr (items : List Json)
  | obj (members : List (String × Json))
deriving Repr, Inhabited

namespace Json

def ofNat (n : Nat) : Json := .int n

/-- The member of an object with the given name. -/
def member? (name : String) : Json → Option Json
  | obj ms => ms.lookup name
  | _ => none

/-! ### Writing -/

def hexDigit (n : Nat) : Char := if n < 10 then Char.ofNat (48 + n) else Char.ofNat (87 + n)

/-- A character as it stands inside a string: quotes, backslashes and control characters are
escaped, all others stand for themselves. -/
def escape (c : Char) : List Char :=
  match c with
  | '"' => ['\\', '"']
  | '\\' => ['\\', '\\']
  | '\n' => ['\\', 'n']
  | '\r' => ['\\', 'r']
  | '\t' => ['\\', 't']
  | '\x08' => ['\\', 'b']
  | '\x0c' => ['\\', 'f']
  | c =>
    if c.toNat < 32 then ['\\', 'u', '0', '0', hexDigit (c.toNat / 16), hexDigit (c.toNat % 16)]
    else [c]

def quote (s : String) : String :=
  "\"" ++ String.ofList (s.toList.flatMap escape) ++ "\""

def indentation (depth : Nat) : String := "".pushn ' ' (2 * depth)

mutual

def prettyAt (depth : Nat) : Json → String
  | null => "null"
  | bool b => if b then "true" else "false"
  | int n => toString n
  | real spelling => spelling
  | str s => quote s
  | arr [] => "[]"
  | arr items => "[\n" ++ prettyItems (depth + 1) items ++ "\n" ++ indentation depth ++ "]"
  | obj [] => "\x7b\x7d"
  | obj members =>
    "\x7b\n" ++ prettyMembers (depth + 1) members ++ "\n" ++ indentation depth ++ "\x7d"

def prettyItems (depth : Nat) : List Json → String
  | [] => ""
  | [j] => indentation depth ++ prettyAt depth j
  | j :: js => indentation depth ++ prettyAt depth j ++ ",\n" ++ prettyItems depth js

def prettyMembers (depth : Nat) : List (String × Json) → String
  | [] => ""
  | [(name, j)] => indentation depth ++ quote name ++ ": " ++ prettyAt depth j
  | (name, j) :: ms =>
    indentation depth ++ quote name ++ ": " ++ prettyAt depth j ++ ",\n" ++ prettyMembers depth ms

end

def pretty (j : Json) : String := prettyAt 0 j

mutual

/-- The value in front of `done`, without blanks. -/
def compactBefore (done : List Char) : Json → List Char
  | null => "null".toList ++ done
  | bool b => (if b then "true" else "false").toList ++ done
  | int n => (toString n).toList ++ done
  | real spelling => spelling.toList ++ done
  | str s => (quote s).toList ++ done
  | arr items => '[' :: compactItems (']' :: done) items
  | obj members => '{' :: compactMembers ('}' :: done) members

def compactItems (done : List Char) : List Json → List Char
  | [] => done
  | [j] => compactBefore done j
  | j :: js => compactBefore (',' :: compactItems done js) j

def compactMembers (done : List Char) : List (String × Json) → List Char
  | [] => done
  | [(name, j)] => (quote name).toList ++ ':' :: compactBefore done j
  | (name, j) :: ms =>
    (quote name).toList ++ ':' :: compactBefore (',' :: compactMembers done ms) j

end

def compact (j : Json) : String := String.ofList (compactBefore [] j)

end Json

end OtaCompile
