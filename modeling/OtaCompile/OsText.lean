import OtaCompile.Path
import OtaCompile.Text.Utf8

/-!
# Texts of the operating system

Paths and variables come from the operating system as bytes, which are text in most cases, but need
not be.  Elsewhere a path is a text (`Path`); a path that is none is known by what is shown of it.
-/

namespace OtaCompile

/-- Bytes that are meant to be text. -/
structure OsText where
  bytes : List UInt8
deriving DecidableEq, Repr

namespace OsText

def ofText (s : String) : OsText := ⟨s.toList.flatMap String.utf8EncodeChar⟩

/-- The text as far as there is one, with replacement characters for the rest. -/
def shown (o : OsText) : String := Text.ofBytes o.bytes

/-- The text, if the bytes are those of one. -/
def text? (o : OsText) : Option String := if ofText o.shown = o then some o.shown else none

def ofPath (p : Path) : OsText := .ofText p.text

def toPath (o : OsText) : Path := ⟨o.shown⟩

end OsText

/-- The value of a variable, if it is set. -/
abbrev Environment := String → Option OsText

namespace Environment

/-- A value that is not text counts for nothing. -/
def text? (env : Environment) (name : String) : Option String := (env name).bind OsText.text?

/-- Any value can be a path. -/
def path? (env : Environment) (name : String) : Option Path := (env name).map OsText.toPath

end Environment

end OtaCompile
