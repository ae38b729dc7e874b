import OtaCompile.Toml.Text
import OtaCompile.Json

/-!
# Numbers, truth values and dates of configuration documents

An integer keeps its value, a float only its spelling; a date is an object with one member, which
holds its normal spelling.
-/

namespace OtaCompile.Toml

/-! ### Numbers -/

def isDigitIn (base : Nat) (c : Char) : Bool :=
  match hexValue? c with
  | some v => v < base
  | none => false

/-- Digits with single underscores between them: the digits alone, if the text is nothing else. -/
def digits? (base : Nat) : List Char → Option (List Char)
  | [] => none
  | [c] => if isDigitIn base c then some [c] else none
  | c :: '_' :: cs => if isDigitIn base c then (digits? base cs).map (c :: ·) else none
  | c :: cs => if isDigitIn base c then (digits? base cs).map (c :: ·) else none

def valueOf (base : Nat) (digits : List Char) : Nat :=
  digits.foldl (fun n c => base * n + (hexValue? c).getD 0) 0

/-- A decimal number without sign; no zero leads another digit. -/
def decimal? (cs : List Char) : Option Nat := do
  let ds ← digits? 10 cs
  if ds.head? == some '0' && ds.length > 1 then none else some (valueOf 10 ds)

/-- The integers that a document may hold. -/
def inRange (n : Int) : Bool :=
  -0x80000000000000000000000000000000 ≤ n && n ≤ 0xffffffffffffffffffffffffffffffff

def integer? (cs : List Char) : Option Int :=
  let read : Option Int :=
    match cs with
    | '0' :: 'x' :: ds => (digits? 16 ds).map fun ds => valueOf 16 ds
    | '0' :: 'o' :: ds => (digits? 8 ds).map fun ds => valueOf 8 ds
    | '0' :: 'b' :: ds => (digits? 2 ds).map fun ds => valueOf 2 ds
    | '+' :: ds => (decimal? ds).map fun n => n
    | '-' :: ds => (decimal? ds).map fun n => -(n : Int)
    | ds => (decimal? ds).map fun n => n
  read.filter inRange

def withoutSign : List Char → List Char
  | '+' :: cs | '-' :: cs => cs
  | cs => cs

def isExponentMark (c : Char) : Bool := c == 'e' || c == 'E'

/-- A decimal number with a fraction, an exponent, or both: its digits without the point and without
zeros in front, and the power of ten of the last of them. -/
structure Scaled where
  digits : List Char
  exponent : Int
deriving Repr

def exponent? : List Char → Option Int
  | '-' :: ds => (digits? 10 ds).map fun ds => -(valueOf 10 ds : Int)
  | ds => (digits? 10 (withoutSign ds)).map fun ds => valueOf 10 ds

/-- Read a float without sign. -/
def scaled? (cs : List Char) : Option Scaled := do
  let mantissa := cs.takeWhile fun c => !isExponentMark c
  let whole ← digits? 10 (mantissa.takeWhile (· != '.'))
  if whole.head? == some '0' && whole.length > 1 then none
  let fraction ← match mantissa.dropWhile (· != '.') with
    | '.' :: f => digits? 10 f
    | _ => some []
  let exponent ← match cs.dropWhile fun c => !isExponentMark c with
    | _ :: e => exponent? e
    | [] => if fraction.isEmpty then none else some 0
  return {
    digits := (whole ++ fraction).dropWhile (· == '0')
    exponent := exponent - fraction.length }

/-- Half a unit above the largest number in double precision, which is 2⁹⁷¹ less than 2¹⁰²⁴. -/
def doubleLimit : Nat := 0x3fffffffffffff <<< 970

/-- Whether a number rounds to one in double precision.  Only a number that begins where the limit
begins is worked out. -/
def Scaled.isFinite (x : Scaled) : Bool :=
  let places := x.digits.length + x.exponent
  if x.digits.isEmpty || places ≤ 308 then true
  else if places > 309 then false
  else
    valueOf 10 x.digits * Nat.pow 10 x.exponent.toNat <
      doubleLimit * Nat.pow 10 (-x.exponent).toNat

/-- Whether the text is a float: a number that is not too large, infinity or not a number. -/
def isFloat (cs : List Char) : Bool :=
  let cs := withoutSign cs
  cs == ['i', 'n', 'f'] || cs == ['n', 'a', 'n'] || (scaled? cs).any Scaled.isFinite

/-! ### Dates and times -/

/-- A number of exactly `n` decimal digits, and the rest. -/
def fixedDigits? (n : Nat) (cs : List Char) : Option (Nat × List Char) :=
  let ds := cs.take n
  if ds.length == n && ds.all (isDigitIn 10) then some (valueOf 10 ds, cs.drop n) else none

def isLeap (year : Nat) : Bool := (year % 4 == 0 && year % 100 != 0) || year % 400 == 0

def daysIn (year month : Nat) : Nat :=
  if month == 2 then if isLeap year then 29 else 28
  else if month == 4 || month == 6 || month == 9 || month == 11 then 30 else 31

def padded (width n : Nat) : String :=
  let s := n.repr
  "".pushn '0' (width - s.length) ++ s

def date? (cs : List Char) : Option (String × List Char) := do
  let (year, cs) ← fixedDigits? 4 cs
  let '-' :: cs := cs | none
  let (month, cs) ← fixedDigits? 2 cs
  let '-' :: cs := cs | none
  let (day, cs) ← fixedDigits? 2 cs
  if 1 ≤ month ∧ month ≤ 12 ∧ 1 ≤ day ∧ day ≤ daysIn year month then
    some (padded 4 year ++ "-" ++ padded 2 month ++ "-" ++ padded 2 day, cs)
  else none

/-- The fraction of a second to nine places, without the zeros at its end. -/
def fraction (digits : List Char) : String :=
  match ((digits.take 9).reverse.dropWhile (· == '0')).reverse with
  | [] => ""
  | ds => "." ++ String.ofList ds

/-- A time of the day; the seconds may be left out. -/
def time? (cs : List Char) : Option (String × List Char) := do
  let (hour, cs) ← fixedDigits? 2 cs
  let ':' :: cs := cs | none
  let (minute, cs) ← fixedDigits? 2 cs
  if hour > 23 ∨ minute > 59 then none
  let clock := padded 2 hour ++ ":" ++ padded 2 minute
  match cs with
  | ':' :: cs => do
    let (second, cs) ← fixedDigits? 2 cs
    if second > 60 then none
    let clock := clock ++ ":" ++ padded 2 second
    match cs with
    | '.' :: cs =>
      let ds := cs.takeWhile (isDigitIn 10)
      if ds.isEmpty then none else some (clock ++ fraction ds, cs.dropWhile (isDigitIn 10))
    | cs => some (clock, cs)
  | cs => some (clock ++ ":00", cs)

/-- The offset at the end of a time, if there is one. -/
def offset? (cs : List Char) : Option String :=
  match cs with
  | [] => some ""
  | ['Z'] | ['z'] => some "Z"
  | sign :: cs => do
    if sign != '+' && sign != '-' then none
    let (hour, cs) ← fixedDigits? 2 cs
    let ':' :: cs := cs | none
    let (minute, cs) ← fixedDigits? 2 cs
    if !cs.isEmpty || hour > 23 || minute > 59 then none
    let mark := if sign == '-' && hour + minute > 0 then "-" else "+"
    return mark ++ padded 2 hour ++ ":" ++ padded 2 minute

/-- A date, a time, or both with a `T` or a space between them. -/
def dateTime? (cs : List Char) : Option String :=
  match date? cs with
  | some (date, []) => some date
  | some (date, mark :: cs) => do
    if mark != 'T' && mark != 't' && mark != ' ' then none
    let (time, cs) ← time? cs
    return date ++ "T" ++ time ++ (← offset? cs)
  | none =>
    match time? cs with
    | some (time, []) => some time
    | _ => none

/-! ### Scalars -/

/-- The member under which a date stands. -/
def dateMember : String := "$__toml_private_datetime"

def scalarOf? (cs : List Char) : Option Json :=
  if cs == "true".toList then some (.bool true)
  else if cs == "false".toList then some (.bool false)
  else match integer? cs with
    | some n => some (.int n)
    | none =>
      if isFloat cs then some (.real (String.ofList cs))
      else (dateTime? cs).map fun d => .obj [(dateMember, .str d)]

def endsScalar (c : Char) : Bool :=
  isBlank c || c == '\n' || c == '\r' || c == ',' || c == ']' || c == '}' || c == '#' || c == '='

/-- A value without quotes and brackets.  A date may go on after one space with a time. -/
def scalar? (cs : List Char) : Option (Json × List Char) :=
  let word := cs.takeWhile fun c => !endsScalar c
  let rest := cs.dropWhile fun c => !endsScalar c
  match date? word, rest with
  | some (_, []), ' ' :: more@(c :: _) =>
    if isDigitIn 10 c then
      let time := more.takeWhile fun c => !endsScalar c
      (scalarOf? (word ++ ' ' :: time)).map fun j => (j, more.dropWhile fun c => !endsScalar c)
    else (scalarOf? word).map fun j => (j, rest)
  | _, _ => (scalarOf? word).map fun j => (j, rest)

end OtaCompile.Toml
