/-!
# Steps that may fail

Steps that follow one another, each of which may fail in place of a result.
-/

namespace OtaCompile

variable {ε α β : Type}

/-- What goes through has gone through step by step. -/
theorem bind_eq_ok {x : Except ε α} {f : α → Except ε β} {b : β} :
    x >>= f = .ok b ↔ ∃ a, x = .ok a ∧ f a = .ok b := by
  cases x with
  | error e => exact iff_of_false nofun nofun
  | ok a => exact ⟨fun h => ⟨a, rfl, h⟩, fun ⟨_, ha, h⟩ => Except.ok.inj ha ▸ h⟩

end OtaCompile
