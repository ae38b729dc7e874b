/-!
# Values known by name

`Named α` lists the values of a small type with the name each is written by.  `ofName?` reads a name
back; it accepts exactly the names written (`ofName?_eq_some_iff`).
-/

namespace OtaCompile

class Named (α : Type) where
  all : List α
  name : α → String
  find_name : ∀ a, all.find? (fun b => name b == name a) = some a

namespace Named

variable {α : Type} [Named α]

def ofName? (s : String) : Option α := all.find? fun a => name a == s

@[simp] theorem ofName?_name (a : α) : ofName? (name a) = some a := find_name a

theorem name_of_ofName? {s : String} {a : α} (h : ofName? s = some a) : name a = s := by
  simpa using List.find?_some h

theorem ofName?_eq_some_iff {s : String} {a : α} : ofName? s = some a ↔ s = name a :=
  ⟨fun h => (name_of_ofName? h).symm, fun h => h ▸ ofName?_name a⟩

theorem name_injective {a b : α} (h : name a = name b) : a = b := by
  have ha := ofName?_name a
  rw [h, ofName?_name] at ha
  exact (Option.some.inj ha).symm

end Named

end OtaCompile
