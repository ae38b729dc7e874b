import OtaCompile.Host.OsError
import OtaCompile.Path
import OtaCompile.Text.Utf8

/-!
# File trees

A tree of directories and regular files as a list of entries, each under the names that lead to it
from the root.  A path is followed piece by piece from the root or from a working directory; each
piece must be looked up in a directory.
-/

namespace OtaCompile

inductive Entry
  | dir
  | file (content : List UInt8)
deriving DecidableEq

/-- What a file holds, as text. -/
def Entry.text? : Entry → Option String
  | dir => none
  | file content => some (Text.ofBytes content)

abbrev Place := List String

structure FileTree where
  entries : List (Place × Entry) := []

namespace FileTree

open Host (OsError)

/-- The entry at a place; the root is always there. -/
def find (t : FileTree) (place : Place) : Option Entry :=
  if place.isEmpty then some .dir else t.entries.lookup place

def erase (t : FileTree) (place : Place) : FileTree :=
  ⟨t.entries.filter fun e => e.1 != place⟩

def put (t : FileTree) (place : Place) (e : Entry) : FileTree :=
  ⟨(t.erase place).entries ++ [(place, e)]⟩

/-- Put a file or a directory, with the directories above it. -/
def plant (t : FileTree) (place : Place) (e : Entry) : FileTree :=
  let above := (List.range place.length).map fun n => place.take n
  let t := above.foldl (fun t dir => if (t.find dir).isSome then t else t.put dir .dir) t
  if e = .dir ∧ (t.find place).isSome then t else t.put place e

/-! ### Following paths -/

/-- The longest name of an entry, in bytes. -/
def maxNameBytes : Nat := 255

/-- The longest path, in bytes. -/
def maxPathBytes : Nat := 4095

/-- The directory at a place. -/
def asDir (t : FileTree) (place : Place) : Except OsError Place :=
  match t.find place with
  | some .dir => .ok place
  | some (.file _) => .error .notADirectory
  | none => .error .noEntry

/-- One step from a directory. -/
def step (t : FileTree) (dir : Place) (piece : String) : Except OsError Place :=
  if Path.blank piece then .ok dir
  else if piece == ".." then .ok dir.dropLast
  else if piece.utf8ByteSize > maxNameBytes then .error .nameTooLong
  else match t.find (dir ++ [piece]) with
    | some _ => .ok (dir ++ [piece])
    | none => .error .noEntry

/-- Follow pieces of a path. -/
def walk (t : FileTree) (place : Place) : List String → Except OsError Place
  | [] => .ok place
  | piece :: pieces => do
    let dir ← t.asDir place
    let place ← t.step dir piece
    walk t place pieces

/-- The place a path starts from, unless it is empty or too long. -/
def origin (here : Place) (p : Path) : Except OsError Place :=
  if p.text.isEmpty then .error .noEntry
  else if p.text.utf8ByteSize > maxPathBytes then .error .nameTooLong
  else .ok (if p.isAbsolute then [] else here)

/-- The place of what is at a path. -/
def locate (t : FileTree) (here : Place) (p : Path) : Except OsError Place := do
  let start ← origin here p
  walk t start p.pieces

def entryAt (t : FileTree) (here : Place) (p : Path) : Except OsError Entry := do
  let place ← t.locate here p
  match t.find place with
  | some e => .ok e
  | none => .error .noEntry

def isDir (t : FileTree) (here : Place) (p : Path) : Bool :=
  match t.entryAt here p with
  | .ok .dir => true
  | _ => false

def isFile (t : FileTree) (here : Place) (p : Path) : Bool :=
  match t.entryAt here p with
  | .ok (.file _) => true
  | _ => false

/-- The place for a new entry at a path; a path that ends in no name has none, since what it leads
to is there already. -/
def placeFor (t : FileTree) (here : Place) (p : Path) : Except OsError Place := do
  let start ← origin here p
  let pieces := (p.pieces.reverse.dropWhile (· == "")).reverse
  match pieces.getLast? with
  | none => .error .present
  | some last =>
    let place ← walk t start pieces.dropLast
    let dir ← t.asDir place
    if last == "." || last == ".." then .error .present
    else if last.utf8ByteSize > maxNameBytes then .error .nameTooLong
    else .ok (dir ++ [last])

/-! ### Changes -/

def makeDir (t : FileTree) (here : Place) (p : Path) : Except OsError FileTree := do
  let place ← t.placeFor here p
  if (t.find place).isSome then .error .present else .ok (t.put place .dir)

/-- Make a directory, or be content with one that is there. -/
def makeDirOnce (t : FileTree) (here : Place) (p : Path) : Except OsError FileTree :=
  match t.makeDir here p with
  | .ok t => .ok t
  | .error e => if t.isDir here p then .ok t else .error e

/-- Make a directory after those above it that are missing; `depth` bounds how many.  What was made
before an error stays. -/
def makeDirsAbove (here : Place) : (depth : Nat) → Path → FileTree → Except OsError Unit × FileTree
  | 0, _, t => (.ok (), t)
  | depth + 1, p, t =>
    if p.text.isEmpty then (.ok (), t)
    else match t.makeDirOnce here p with
      | .ok t => (.ok (), t)
      | .error .noEntry =>
        match p.parent with
        | none => (.error .noEntry, t)
        | some above =>
          match makeDirsAbove here depth above t with
          | (.error e, t) => (.error e, t)
          | (.ok (), t) =>
            match t.makeDirOnce here p with
            | .ok t => (.ok (), t)
            | .error e => (.error e, t)
      | .error e => (.error e, t)

/-- Each directory above another has a shorter path. -/
def makeDirs (t : FileTree) (here : Place) (p : Path) : Except OsError Unit × FileTree :=
  makeDirsAbove here (p.text.length + 1) p t

/-- Whether a place lies below another one. -/
def isBelow (place above : Place) : Bool := place != above && above.isPrefixOf place

/-- Give a regular file another name, in place of any file that has it; directories keep theirs, and
one that the file lies in is not empty. -/
def rename (t : FileTree) (here : Place) (source target : Path) : Except OsError FileTree := do
  let old ← t.locate here source
  let new ← t.placeFor here target
  if isBelow old new then .error .notEmpty
  else match t.find old, t.find new with
    | none, _ => .error .noEntry
    | some .dir, _ => .error .isADirectory
    | some (.file _), some .dir => .error .isADirectory
    | some (.file content), _ => .ok ((t.erase old).put new (.file content))

end FileTree

end OtaCompile
