import OtaCompile.Settings.Layers

/-!
# Styles

How lines for people are set off by colour.  Nothing is taken for a terminal, so there is colour
only where the settings always want it and the environment insists on it.
-/

namespace OtaCompile.Console

/-- Codes of display attributes, in the order in which they are switched on. -/
structure Style where
  codes : List Nat
deriving DecidableEq, Repr, Inhabited

namespace Style

def switch (code : Nat) : String := "\x1b[" ++ code.repr ++ "m"

/-- A text in a style; behind it everything is switched off. -/
def apply (s : Style) (text : String) : String :=
  if s.codes.isEmpty then text
  else String.join (s.codes.map switch) ++ text ++ switch 0

@[simp] theorem apply_nil (text : String) : apply ⟨[]⟩ text = text := rfl

end Style

/-- The styles of all that can be set off. -/
structure Palette where
  /-- Lines on how far the work is. -/
  status : Style
  /-- The word in front of a warning. -/
  warning : Style
  /-- The line below a summary. -/
  advice : Style
deriving DecidableEq, Repr, Inhabited

namespace Palette

def plain : Palette := ⟨⟨[]⟩, ⟨[]⟩, ⟨[]⟩⟩

/-- Cyan, bold yellow and yellow. -/
def colored : Palette := ⟨⟨[36]⟩, ⟨[33, 1]⟩, ⟨[33]⟩⟩

/-- Whether the environment insists on colour. -/
def isForced (env : Environment) : Bool := (env.text? "CLICOLOR_FORCE").any (· != "0")

def choose (env : Environment) (choice : ColorChoice) : Palette :=
  if choice = .always ∧ isForced env then colored else plain

end Palette

end OtaCompile.Console
