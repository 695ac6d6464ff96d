import UnitBinding.Contribution
import UnitBinding.Table

set_option autoImplicit false

/-! # The service registry

Contributions registered while the program runs. Every registration gets the next `ServiceId`, whatever
its kind, and is discovered by descending ranking, registrations of one ranking in their order. Linked
contributions follow if the registry includes them, each in an instance made for the discovery.

The registrations of each kind are a finite map from ids, kept as a list in the order of registration.
Ids are numbers of sixty-four bits: after the last one the counter starts over, and a registration under
an id in use takes the place of the older one. -/

namespace UnitBinding

/-- The handle of one registration. -/
structure ServiceId where
  index : UInt64
  deriving DecidableEq, Inhabited

/-- The form that is shown to users. -/
def ServiceId.describe (id : ServiceId) : String := "service#" ++ toString id.index.toNat

/-- A registered service. -/
structure Registration (α : Type) where
  id : ServiceId
  ranking : Int
  service : Shared α

/-- The ranking of a registration without one. -/
def defaultRanking : Int := 0

namespace Registration

variable {α : Type}

/-- Whether a registration is discovered no later than another: a higher ranking first, and an
    earlier registration first within a ranking. -/
def precedes (a b : Registration α) : Bool :=
  b.ranking < a.ranking || (a.ranking = b.ranking && a.id.index ≤ b.id.index)

/-- The registrations in the order of their discovery. -/
def ranked (registrations : List (Registration α)) : List (Registration α) :=
  registrations.mergeSort precedes

/-- Take the registration with an id away. -/
def remove (id : ServiceId) (registrations : List (Registration α)) : List (Registration α) :=
  registrations.filter fun r => r.id ≠ id

/-- Add a registration, in the place of one with its id. -/
def insert (r : Registration α) (registrations : List (Registration α)) : List (Registration α) :=
  remove r.id registrations ++ [r]

/-- Whether a registration has an id. -/
def present (id : ServiceId) (registrations : List (Registration α)) : Bool :=
  registrations.any fun r => r.id = id

end Registration

/-- The registrations of all three kinds. -/
structure ServiceRegistry where
  /-- The index of the next id. -/
  next : UInt64 := 1
  includeLinked : Bool
  integrators : List (Registration Integrator) := []
  strategies : List (Registration StrategyProvider) := []
  contributors : List (Registration TypeContributor) := []

instance : Inhabited ServiceRegistry := ⟨{ includeLinked := true }⟩

namespace ServiceRegistry

/-- A registry without registrations. -/
def new (includeLinked : Bool) : ServiceRegistry := { includeLinked }

/-- The registry made without a choice: linked contributions are included. -/
def default : ServiceRegistry := new true

/-! ## Kinds -/

/-- The registrations of a kind. -/
def registered (r : ServiceRegistry) : (kind : Capability) → List (Registration kind.Service)
  | .integrator => r.integrators
  | .strategy => r.strategies
  | .contributor => r.contributors

/-- The registry with other registrations of a kind. -/
def withRegistered (r : ServiceRegistry) :
    (kind : Capability) → List (Registration kind.Service) → ServiceRegistry
  | .integrator, registrations => { r with integrators := registrations }
  | .strategy, registrations => { r with strategies := registrations }
  | .contributor, registrations => { r with contributors := registrations }

@[simp] theorem registered_withRegistered_self (r : ServiceRegistry) (kind : Capability)
    (registrations : List (Registration kind.Service)) :
    (r.withRegistered kind registrations).registered kind = registrations := by
  cases kind <;> rfl

theorem registered_withRegistered_of_ne (r : ServiceRegistry) {kind other : Capability}
    (h : other ≠ kind) (registrations : List (Registration kind.Service)) :
    (r.withRegistered kind registrations).registered other = r.registered other := by
  cases kind <;> cases other <;> first | rfl | exact absurd rfl h

@[simp] theorem next_withRegistered (r : ServiceRegistry) (kind : Capability)
    (registrations : List (Registration kind.Service)) :
    (r.withRegistered kind registrations).next = r.next := by
  cases kind <;> rfl

@[simp] theorem includeLinked_withRegistered (r : ServiceRegistry) (kind : Capability)
    (registrations : List (Registration kind.Service)) :
    (r.withRegistered kind registrations).includeLinked = r.includeLinked := by
  cases kind <;> rfl

@[simp] theorem withRegistered_registered (r : ServiceRegistry) (kind : Capability) :
    r.withRegistered kind (r.registered kind) = r := by
  cases kind <;> rfl

/-! ## Registering -/

/-- The id of the next registration. -/
def nextId (r : ServiceRegistry) : ServiceId := ⟨r.next⟩

/-- Register a service of a kind. -/
def register (r : ServiceRegistry) (kind : Capability) (service : Shared kind.Service)
    (ranking : Int) : ServiceRegistry :=
  { r.withRegistered kind (Registration.insert ⟨r.nextId, ranking, service⟩ (r.registered kind)) with
    next := r.next + 1 }

/-- The kind with a registration under an id. The kinds are searched one after the other. -/
def kindOf? (r : ServiceRegistry) (id : ServiceId) : Option Capability :=
  Capability.all.find? fun kind => Registration.present id (r.registered kind)

/-- Take a registration away. Only the first kind that has the id loses a registration. -/
def unregister (r : ServiceRegistry) (id : ServiceId) : Bool × ServiceRegistry :=
  match r.kindOf? id with
  | none => (false, r)
  | some kind => (true, r.withRegistered kind (Registration.remove id (r.registered kind)))

/-- The number of registrations. -/
def size (r : ServiceRegistry) : Nat :=
  r.integrators.length + r.strategies.length + r.contributors.length

/-- Whether nothing is registered. -/
def isEmpty (r : ServiceRegistry) : Bool := r.size = 0

/-- The form that diagnostics show. -/
def debug (r : ServiceRegistry) : String :=
  "ServiceRegistry \x7b include_linked: " ++ toString r.includeLinked
    ++ ", integrators: " ++ toString r.integrators.length
    ++ ", strategy_registration_providers: " ++ toString r.strategies.length
    ++ ", type_contributors: " ++ toString r.contributors.length ++ " \x7d"

/-! ## Discovery -/

/-- What a discovery found, by kind. -/
structure Discovered where
  integrators : List (Shared Integrator)
  strategies : List (Shared StrategyProvider)
  contributors : List (Shared TypeContributor)

/-- Fresh instances of linked contributions, numbered from a serial on. -/
def linkedInstances {α : Type} (serial : Nat) (linked : List (Linked α)) : List (Shared α) :=
  Shared.numbered serial (linked.map (·.contribution))

/-- The visible services of a kind. -/
def discoverOf (r : ServiceRegistry) (kind : Capability) (linked : LinkedContributions)
    (serial : Nat) : List (Shared kind.Service) :=
  (Registration.ranked (r.registered kind)).map (·.service)
    ++ if r.includeLinked then linkedInstances serial (linked.of kind) else []

end ServiceRegistry

end UnitBinding
