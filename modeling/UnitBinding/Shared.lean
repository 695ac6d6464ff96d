set_option autoImplicit false

/-! # Shared instances

Some values are handed around as one instance that several holders share, and it matters whether two
holders have the same one. `Shared` pairs a value with the serial number under which its instance was
made; two instances are the same exactly if their serials are equal. -/

namespace UnitBinding

/-- An instance of a value. -/
structure Shared (α : Type) where
  serial : Nat
  value : α
  deriving Inhabited

namespace Shared

variable {α : Type}

/-- Whether two holders share one instance. -/
def same (a b : Shared α) : Bool := a.serial = b.serial

@[simp] theorem same_self (a : Shared α) : a.same a = true := by simp [same]

/-- Number the values of a list from a serial on. -/
def numbered (start : Nat) : List α → List (Shared α)
  | [] => []
  | value :: rest => ⟨start, value⟩ :: numbered (start + 1) rest

@[simp] theorem length_numbered (start : Nat) (values : List α) :
    (numbered start values).length = values.length := by
  induction values generalizing start with
  | nil => rfl
  | cons value rest ih => simp [numbered, ih]

@[simp] theorem map_value_numbered (start : Nat) (values : List α) :
    (numbered start values).map (·.value) = values := by
  induction values generalizing start with
  | nil => rfl
  | cons value rest ih => simp [numbered, ih]

end Shared

end UnitBinding
