/-!
# Strings, keys and blanks of configuration documents

Readers take a list of characters and give back what they read with the rest, or nothing if the text
is malformed.
-/

namespace OtaCompile.Toml

abbrev Reader (α : Type) := List Char → Option (α × List Char)

/-! ### Blanks, comments and line ends -/

def isBlank (c : Char) : Bool := c == ' ' || c == '\t'

/-- A character that may stand in a comment or a string: no control character but the tab. -/
def isPlain (c : Char) : Bool := c == '\t' || (' ' ≤ c && c != '\x7f')

def skipBlanks (cs : List Char) : List Char := cs.dropWhile isBlank

/-- The rest after a line feed, with or without a carriage return in front. -/
def afterNewline? : List Char → Option (List Char)
  | '\n' :: cs => some cs
  | '\r' :: '\n' :: cs => some cs
  | _ => none

def skipComment : List Char → List Char
  | '#' :: cs => cs.dropWhile isPlain
  | cs => cs

/-- The rest after the blanks and the comment that may end a line. -/
def afterLine? (cs : List Char) : Option (List Char) :=
  match skipComment (skipBlanks cs) with
  | [] => some []
  | cs => afterNewline? cs

/-- Skip blanks, comments and line ends, as between what brackets and braces hold. -/
def skipLines : Nat → List Char → List Char
  | 0, cs => cs
  | fuel + 1, cs =>
    let cs := skipComment (skipBlanks cs)
    match afterNewline? cs with
    | some rest => skipLines fuel rest
    | none => cs

def skipSpace (cs : List Char) : List Char := skipLines cs.length cs

/-! ### Strings -/

def hexValue? (c : Char) : Option Nat :=
  if '0' ≤ c ∧ c ≤ '9' then some (c.toNat - 48)
  else if 'a' ≤ c ∧ c ≤ 'f' then some (c.toNat - 87)
  else if 'A' ≤ c ∧ c ≤ 'F' then some (c.toNat - 55)
  else none

/-- The character with the number written by hexadecimal digits. -/
def charOfHex? (digits : List Char) : Option Char := do
  let ns ← digits.mapM hexValue?
  let n := ns.foldl (fun n d => 16 * n + d) 0
  if n.isValidChar then some (Char.ofNat n) else none

def charOfEscape? : Char → Option Char
  | 'b' => some '\x08'
  | 't' => some '\t'
  | 'n' => some '\n'
  | 'e' => some '\x1b'
  | 'f' => some '\x0c'
  | 'r' => some '\r'
  | '"' => some '"'
  | '\\' => some '\\'
  | _ => none

/-- The characters up to the closing quote, last first. -/
def basicBody (done : List Char) : Reader (List Char)
  | '"' :: cs => some (done, cs)
  | '\\' :: 'x' :: a :: b :: cs => do basicBody ((← charOfHex? [a, b]) :: done) cs
  | '\\' :: 'u' :: a :: b :: c :: d :: cs => do
    basicBody ((← charOfHex? [a, b, c, d]) :: done) cs
  | '\\' :: 'U' :: a :: b :: c :: d :: e :: f :: g :: h :: cs => do
    basicBody ((← charOfHex? [a, b, c, d, e, f, g, h]) :: done) cs
  | '\\' :: e :: cs => do basicBody ((← charOfEscape? e) :: done) cs
  | c :: cs => if isPlain c then basicBody (c :: done) cs else none
  | [] => none

/-- The characters up to three closing quotes, last first; line ends stay as they are written.
After a backslash at the end of a line, `skipping` drops blanks and line ends. -/
def basicLines (skipping : Bool) (done : List Char) : Reader (List Char)
  | '"' :: '"' :: '"' :: '"' :: '"' :: cs => some ('"' :: '"' :: done, cs)
  | '"' :: '"' :: '"' :: '"' :: cs => some ('"' :: done, cs)
  | '"' :: '"' :: '"' :: cs => some (done, cs)
  | '\\' :: 'x' :: a :: b :: cs => do basicLines false ((← charOfHex? [a, b]) :: done) cs
  | '\\' :: 'u' :: a :: b :: c :: d :: cs => do
    basicLines false ((← charOfHex? [a, b, c, d]) :: done) cs
  | '\\' :: 'U' :: a :: b :: c :: d :: e :: f :: g :: h :: cs => do
    basicLines false ((← charOfHex? [a, b, c, d, e, f, g, h]) :: done) cs
  | '\\' :: e :: cs =>
    match charOfEscape? e with
    | some c => basicLines false (c :: done) cs
    | none =>
      if (afterNewline? (skipBlanks (e :: cs))).isSome then basicLines true done (e :: cs) else none
  | '\r' :: '\n' :: cs =>
    basicLines skipping (if skipping then done else '\n' :: '\r' :: done) cs
  | '\n' :: cs => basicLines skipping (if skipping then done else '\n' :: done) cs
  | c :: cs =>
    if skipping && isBlank c then basicLines true done cs
    else if isPlain c then basicLines false (c :: done) cs else none
  | [] => none

def literalBody (done : List Char) : Reader (List Char)
  | '\'' :: cs => some (done, cs)
  | c :: cs => if isPlain c then literalBody (c :: done) cs else none
  | [] => none

def literalLines (done : List Char) : Reader (List Char)
  | '\'' :: '\'' :: '\'' :: '\'' :: '\'' :: cs => some ('\'' :: '\'' :: done, cs)
  | '\'' :: '\'' :: '\'' :: '\'' :: cs => some ('\'' :: done, cs)
  | '\'' :: '\'' :: '\'' :: cs => some (done, cs)
  | '\r' :: '\n' :: cs => literalLines ('\n' :: '\r' :: done) cs
  | '\n' :: cs => literalLines ('\n' :: done) cs
  | c :: cs => if isPlain c then literalLines (c :: done) cs else none
  | [] => none

/-- A line end right after the opening quotes is not part of the string. -/
def withoutNewline (cs : List Char) : List Char := (afterNewline? cs).getD cs

def stringOf (r : Option (List Char × List Char)) : Option (String × List Char) :=
  r.map fun (done, rest) => (String.ofList done.reverse, rest)

/-- A string on one line. -/
def quoted? : Reader String
  | '"' :: cs => stringOf (basicBody [] cs)
  | '\'' :: cs => stringOf (literalBody [] cs)
  | _ => none

/-- Any string. -/
def string? : Reader String
  | '"' :: '"' :: '"' :: cs => stringOf (basicLines false [] (withoutNewline cs))
  | '\'' :: '\'' :: '\'' :: cs => stringOf (literalLines [] (withoutNewline cs))
  | cs => quoted? cs

/-! ### Keys -/

def isBare (c : Char) : Bool :=
  ('a' ≤ c && c ≤ 'z') || ('A' ≤ c && c ≤ 'Z') || ('0' ≤ c && c ≤ '9') || c == '_' || c == '-'

def simpleKey? (cs : List Char) : Option (String × List Char) :=
  match cs with
  | '"' :: _ | '\'' :: _ => quoted? cs
  | _ =>
    match cs.takeWhile isBare with
    | [] => none
    | key => some (String.ofList key, cs.dropWhile isBare)

/-- Simple keys with dots between them, at most as many as the number says. -/
def keyParts? : Nat → Reader (List String)
  | 0, _ => none
  | limit + 1, cs => do
    let (k, cs) ← simpleKey? (skipBlanks cs)
    match skipBlanks cs with
    | '.' :: cs => do
      let (ks, cs) ← keyParts? limit cs
      return (k :: ks, cs)
    | cs => return ([k], cs)

/-- How many parts a key may have. -/
def maxKeyParts : Nat := 80

/-- A key on one line. -/
def key? : Reader (List String) := keyParts? maxKeyParts

end OtaCompile.Toml
