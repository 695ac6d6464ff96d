import UnitBinding.Bundle
import UnitBinding.Table

set_option autoImplicit false

/-! # The ambient type resolver

Each thread carries a slot for the type resolver to use when none is given. `Ambient.install` puts a
resolver into the slot and makes a `Guard`, which remembers what was there before; dropping the guard
puts that back, in whatever order guards are dropped. `Ambient.withBoundary` runs one operation between
an installation and the drop of its guard, however the operation ends. -/

namespace UnitBinding

/-- A resolver as an instance that can be told from others. -/
abbrev Scope := Shared TypeResolver

/-- The slot of one thread. -/
abbrev Ambient := Option Scope

/-- What to put back into the slot. -/
structure Guard where
  previous : Ambient
  deriving Inhabited

namespace Ambient

/-- The guard of an installation, and the slot afterwards. -/
def install (slot : Ambient) (scope : Scope) : Guard × Ambient := (⟨slot⟩, some scope)

/-- The slot after a guard is dropped. -/
def drop (guard : Guard) : Ambient := guard.previous

/-- Run an operation with a resolver in the slot, and put the previous one back. The operation may
    leave anything in the slot, and its result may be an error or a panic. -/
def withBoundary {α : Type} (scope : Scope) (operation : Ambient → α × Ambient)
    (slot : Ambient) : α × Ambient :=
  let (guard, installed) := install slot scope
  let (result, _) := operation installed
  (result, drop guard)

/-- The slot is as it was before … -/
@[simp] theorem withBoundary_slot {α : Type} (scope : Scope)
    (operation : Ambient → α × Ambient) (slot : Ambient) :
    (withBoundary scope operation slot).2 = slot := rfl

/-- … and the result is that of the operation started with the resolver in the slot. -/
@[simp] theorem withBoundary_result {α : Type} (scope : Scope)
    (operation : Ambient → α × Ambient) (slot : Ambient) :
    (withBoundary scope operation slot).1 = (operation (some scope)).1 := rfl

end Ambient

end UnitBinding
