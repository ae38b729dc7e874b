import OtaCompile.Json
import OtaCompile.Text.Decimal

/-!
# Reading JSON

`Json.read?` reads a whole text as one value.  A number with a point or an exponent is a real, and
so is minus zero; of members with one name the last counts.
-/

namespace OtaCompile.Json

def isBlank (c : Char) : Bool := c == ' ' || c == '\n' || c == '\t' || c == '\r'

def skipBlanks (cs : List Char) : List Char := cs.dropWhile isBlank

/-! ### Strings -/

def hexDigit? (c : Char) : Option Nat :=
  if '0' ≤ c ∧ c ≤ '9' then some (c.toNat - 48)
  else if 'a' ≤ c ∧ c ≤ 'f' then some (c.toNat - 87)
  else if 'A' ≤ c ∧ c ≤ 'F' then some (c.toNat - 55)
  else none

/-- The number that four hexadecimal digits write. -/
def unit? (a b c d : Char) : Option Nat := do
  return 4096 * (← hexDigit? a) + 256 * (← hexDigit? b) + 16 * (← hexDigit? c) + (← hexDigit? d)

def plainEscape? : Char → Option Char
  | '"' => some '"'
  | '\\' => some '\\'
  | '/' => some '/'
  | 'b' => some '\x08'
  | 'f' => some '\x0c'
  | 'n' => some '\n'
  | 'r' => some '\r'
  | 't' => some '\t'
  | _ => none

/-- The character of one unit, or of a high and a low one. -/
def charOfUnits? (high : Nat) (low : Option Nat) : Option Char :=
  match low with
  | none => if high.isValidChar then some (Char.ofNat high) else none
  | some low =>
    if 0xD800 ≤ high ∧ high < 0xDC00 ∧ 0xDC00 ≤ low ∧ low < 0xE000 then
      some (Char.ofNat (0x10000 + 1024 * (high - 0xD800) + (low - 0xDC00)))
    else none

/-- The characters up to the closing quote, last first, and what follows it. -/
def stringBody? (done : List Char) : List Char → Option (List Char × List Char)
  | '"' :: cs => some (done, cs)
  | '\\' :: 'u' :: a :: b :: c :: d :: '\\' :: 'u' :: e :: f :: g :: h :: cs => do
    let first ← unit? a b c d
    match charOfUnits? first none with
    | some x => stringBody? (x :: done) ('\\' :: 'u' :: e :: f :: g :: h :: cs)
    | none => do
      let x ← charOfUnits? first (some (← unit? e f g h))
      stringBody? (x :: done) cs
  | '\\' :: 'u' :: a :: b :: c :: d :: cs => do
    let x ← charOfUnits? (← unit? a b c d) none
    stringBody? (x :: done) cs
  | '\\' :: e :: cs => do stringBody? ((← plainEscape? e) :: done) cs
  | c :: cs => if c.toNat < 32 then none else stringBody? (c :: done) cs
  | [] => none

def string? (cs : List Char) : Option (String × List Char) :=
  (stringBody? [] cs).map fun (done, rest) => (String.ofList done.reverse, rest)

/-! ### Numbers -/

def isNumberChar (c : Char) : Bool :=
  Text.isDigit c || c == '.' || c == '-' || c == '+' || c == 'e' || c == 'E'

/-- Digits without a zero in front of others. -/
def isWhole : List Char → Bool
  | ['0'] => true
  | c :: cs => c != '0' && (c :: cs).all Text.isDigit
  | [] => false

def isDigits (cs : List Char) : Bool := !cs.isEmpty && cs.all Text.isDigit

def withoutSign : List Char → List Char
  | '+' :: cs | '-' :: cs => cs
  | cs => cs

/-- An exponent, or none. -/
def isExponent : List Char → Bool
  | [] => true
  | c :: cs => (c == 'e' || c == 'E') && isDigits (withoutSign cs)

/-- A fraction and an exponent, or the one without the other, or none. -/
def isFraction : List Char → Bool
  | '.' :: cs => isDigits (cs.takeWhile Text.isDigit) && isExponent (cs.dropWhile Text.isDigit)
  | cs => isExponent cs

/-- The number that a text writes, if it is one. -/
def ofNumber? (cs : List Char) : Option Json :=
  let (negative, magnitude) := match cs with
    | '-' :: cs => (true, cs)
    | cs => (false, cs)
  let whole := magnitude.takeWhile Text.isDigit
  let rest := magnitude.dropWhile Text.isDigit
  if !isWhole whole || !isFraction rest then none
  else if !rest.isEmpty || (negative && whole == ['0']) then some (real (String.ofList cs))
  else if negative then some (int (-Text.digitsValue whole))
  else some (int (Text.digitsValue whole))

/-! ### Values -/

/-- Add a member, in place of one that has its name. -/
def putMember (name : String) (j : Json) (ms : List (String × Json)) : List (String × Json) :=
  ms.filter (fun m => m.1 != name) ++ [(name, j)]

mutual

def value? (fuel : Nat) (cs : List Char) : Option (Json × List Char) :=
  match fuel, skipBlanks cs with
  | 0, _ => none
  | _, 'n' :: 'u' :: 'l' :: 'l' :: cs => some (null, cs)
  | _, 't' :: 'r' :: 'u' :: 'e' :: cs => some (bool true, cs)
  | _, 'f' :: 'a' :: 'l' :: 's' :: 'e' :: cs => some (bool false, cs)
  | _, '"' :: cs => (string? cs).map fun (s, rest) => (str s, rest)
  | fuel + 1, '[' :: cs =>
    match skipBlanks cs with
    | ']' :: cs => some (arr [], cs)
    | cs => items? fuel [] cs
  | fuel + 1, '{' :: cs =>
    match skipBlanks cs with
    | '}' :: cs => some (obj [], cs)
    | cs => members? fuel [] cs
  | _, cs => (ofNumber? (cs.takeWhile isNumberChar)).map fun j => (j, cs.dropWhile isNumberChar)

/-- The items of an array from one that there must be. -/
def items? (fuel : Nat) (done : List Json) (cs : List Char) : Option (Json × List Char) :=
  match fuel with
  | 0 => none
  | fuel + 1 => do
    let (j, cs) ← value? fuel cs
    match skipBlanks cs with
    | ',' :: cs => items? fuel (j :: done) cs
    | ']' :: cs => some (arr (j :: done).reverse, cs)
    | _ => none

/-- The members of an object from one that there must be. -/
def members? (fuel : Nat) (done : List (String × Json)) (cs : List Char) :
    Option (Json × List Char) :=
  match fuel, skipBlanks cs with
  | fuel + 1, '"' :: cs => do
    let (name, cs) ← string? cs
    let ':' :: cs := skipBlanks cs | none
    let (j, cs) ← value? fuel cs
    let done := putMember name j done
    match skipBlanks cs with
    | ',' :: cs => members? fuel done cs
    | '}' :: cs => some (obj done, cs)
    | _ => none
  | _, _ => none

end

def read? (s : String) : Option Json :=
  let cs := s.toList
  match value? (2 * cs.length + 2) cs with
  | some (j, rest) => if (skipBlanks rest).isEmpty then some j else none
  | none => none

end OtaCompile.Json
