import OtaCompile.Text.Fields

/-!
# Paths

A path is a text whose spelling is kept.  Its meaning is the list of its `components`: doubled
slashes and inner `.` pieces say nothing, a leading slash is the root, a leading `.` is kept.
`parent`, `join` and `startsWith` follow the components while they cut or extend the text.
-/

namespace OtaCompile

structure Path where
  text : String
deriving DecidableEq, Repr, Inhabited

namespace Path

inductive Component
  | root
  | here
  | up
  | name (s : String)
deriving DecidableEq, Repr

instance : ToString Path := ⟨Path.text⟩

/-- The texts between slashes, empty ones included. -/
def pieces (p : Path) : List String := Text.split '/' p.text

def isAbsolute (p : Path) : Bool := p.text.toList.head? == some '/'

/-- The piece that stands for the root or a leading `.`, and the pieces after it. -/
def anchored (p : Path) : List String × List String :=
  match p.pieces with
  | "" :: r :: rs => ([""], r :: rs)
  | "." :: rs => (["."], rs)
  | ps => ([], ps)

/-- A piece that names nothing: a doubled slash or an inner `.`. -/
def blank (piece : String) : Bool := piece == "" || piece == "."

/-! ### Components -/

def Component.ofPiece? (piece : String) : Option Component :=
  if blank piece then none else if piece == ".." then some .up else some (.name piece)

def components (p : Path) : List Component :=
  match p.anchored with
  | ([""], body) => .root :: body.filterMap Component.ofPiece?
  | (["."], body) => .here :: body.filterMap Component.ofPiece?
  | (_, body) => body.filterMap Component.ofPiece?

/-- The named components alone, without root, `.` and `..`. -/
def names (p : Path) : List String :=
  p.components.filterMap fun
    | .name s => some s
    | _ => none

/-- Whether the components of `base` come first in those of `p`. -/
def startsWith (p base : Path) : Bool := base.components.isPrefixOf p.components

/-! ### Parent and join -/

def dropLastBlank (ps : List String) : List String := (ps.reverse.dropWhile blank).reverse

def ofAnchored (anchor body : List String) : Path :=
  if anchor == [""] && body.isEmpty then ⟨"/"⟩ else ⟨Text.join '/' (anchor ++ body)⟩

/-- The path without its last component; a bare root and an empty path have none. -/
def parent (p : Path) : Option Path :=
  let (anchor, body) := p.anchored
  match dropLastBlank body with
  | [] => if anchor == ["."] then some ⟨""⟩ else none
  | body => some (ofAnchored anchor (dropLastBlank body.dropLast))

/-- `q` seen from `p`: an absolute `q` stands for itself. -/
def join (p q : Path) : Path :=
  if q.isAbsolute then q
  else if p.text.isEmpty || p.text.toList.getLast? == some '/' then ⟨p.text ++ q.text⟩
  else ⟨p.text ++ "/" ++ q.text⟩

/-- A relative path made of the given names. -/
def ofNames (ns : List String) : Path := ⟨Text.join '/' ns⟩

/-! ### File names -/

def fileName (p : Path) : Option String :=
  match p.components.getLast? with
  | some (.name s) => some s
  | _ => none

/-- The part of a file name before its last dot; a name whose only dot leads it has no extension. -/
def stemOf (name : String) : String :=
  let back := name.toList.reverse
  match back.dropWhile (· != '.') with
  | [] => name
  | [_] => name
  | _ :: stem => String.ofList stem.reverse

def fileStem (p : Path) : Option String := p.fileName.map stemOf

/-- The last component with its extension replaced; a path that ends in no name stays as it is. -/
def nameWithExtension (name extension : String) : String :=
  if (Path.mk name).fileName == some name then
    if extension.isEmpty then stemOf name else stemOf name ++ "." ++ extension
  else name

end Path

end OtaCompile
