import UnitBinding.Error
import UnitBinding.OwnerType
import UnitBinding.Shared

set_option autoImplicit false

/-! # Contributions to a build

Services outside the library contribute three kinds of things to the build of a persistence unit:
integrators, which hook into the build; strategy registrations, which make implementations selectable
by short names; and type contributors, which register value types under names. A `ContributionList`
holds the contributions of one kind as they were discovered at one moment. -/

namespace UnitBinding

/-! ## The three kinds -/

/-- A kind of contribution. -/
inductive Capability where
  | integrator
  | strategy
  | contributor
  deriving DecidableEq, Inhabited

/-- All kinds, in the order in which they are asked for. -/
def Capability.all : List Capability := [.integrator, .strategy, .contributor]

/-- A hook into the build, by its name and the failure it reports, if any. -/
structure Integrator where
  name : String
  failure : Option Error := none
  deriving Inhabited

/-- Called by the builder during a build. -/
def Integrator.integrate (integrator : Integrator) : Except Error Unit :=
  match integrator.failure with
  | none => .ok ()
  | some err => .error err

/-- An implementation of a role, selectable by short names. -/
structure StrategyRegistration where
  role : String
  implementation : String
  selectors : List String
  deriving DecidableEq, Inhabited

namespace StrategyRegistration

/-- The record as a data value. -/
def toJson (r : StrategyRegistration) : Json :=
  Json.ofMembers
    [("strategy_role", .str r.role), ("implementation", .str r.implementation),
      ("selector_names", Json.ofStrings r.selectors)]

/-- The record from a data value. -/
def ofJson : Json → Decoded StrategyRegistration
  | .obj members => do
    let implementation ← Json.field? members "implementation" Json.asString
    let selectors ← Json.field? members "selector_names" (Json.asList Json.asString)
    let role ← Json.field? members "strategy_role" Json.asString
    let role ← Json.require "strategy_role" role
    let implementation ← Json.require "implementation" implementation
    let selectors ← Json.require "selector_names" selectors
    return ⟨role, implementation, selectors⟩
  | .arr elements => do
    let expected := "struct StrategyRegistration with 3 elements"
    let role ← Json.element elements 0 expected Json.asString
    let implementation ← Json.element elements 1 expected Json.asString
    let selectors ← Json.element elements 2 expected (Json.asList Json.asString)
    Json.atMost 3 elements
    return ⟨role, implementation, selectors⟩
  | value => value.mistyped "struct StrategyRegistration"

end StrategyRegistration

/-- A source of strategy registrations. -/
structure StrategyProvider where
  registrations : List StrategyRegistration
  deriving DecidableEq, Inhabited

/-- The types registered so far, in the order of registration. -/
structure TypeContributions where
  registrations : List (String × OwnerType) := []
  deriving DecidableEq, Inhabited

namespace TypeContributions

/-- Register a type under a name. -/
def contribute (contributions : TypeContributions) (name : String) (owner : OwnerType) :
    TypeContributions :=
  ⟨contributions.registrations ++ [(name, owner)]⟩

/-- The type registered last under a name. -/
def resolve? (contributions : TypeContributions) (name : String) : Option OwnerType :=
  (contributions.registrations.reverse.find? fun r => r.1 = name).map (·.2)

/-- A registration overrides earlier ones of its name … -/
@[simp] theorem resolve?_contribute_self (contributions : TypeContributions) (name : String)
    (owner : OwnerType) : (contributions.contribute name owner).resolve? name = some owner := by
  simp [resolve?, contribute]

/-- … and leaves other names alone. -/
theorem resolve?_contribute_of_ne (contributions : TypeContributions) (name other : String)
    (owner : OwnerType) (h : name ≠ other) :
    (contributions.contribute name owner).resolve? other = contributions.resolve? other := by
  simp [resolve?, contribute, h]

end TypeContributions

/-- A source of value types. -/
structure TypeContributor where
  types : List (String × OwnerType)
  deriving DecidableEq, Inhabited

/-- Register all types of a contributor. -/
def TypeContributor.contribute (contributor : TypeContributor)
    (contributions : TypeContributions) : TypeContributions :=
  contributor.types.foldl (fun all r => all.contribute r.1 r.2) contributions

/-- What is contributed of a kind. -/
abbrev Capability.Service : Capability → Type
  | .integrator => Integrator
  | .strategy => StrategyProvider
  | .contributor => TypeContributor

/-! ## Deferred lists -/

/-- The contributions of one kind as discovered at one moment. -/
structure ContributionList (α : Type) where
  snapshot : List (Shared α) := []
  deriving Inhabited

/-- An iteration over contributions: those that are still to come. -/
structure Iteration (α : Type) where
  rest : List (Shared α)

namespace Iteration

variable {α : Type}

/-- The next contribution, and the iteration after it. -/
def next? : Iteration α → Option (Shared α × Iteration α)
  | ⟨[]⟩ => none
  | ⟨x :: rest⟩ => some (x, ⟨rest⟩)

theorem length_of_next? {iteration later : Iteration α} {x : Shared α}
    (h : iteration.next? = some (x, later)) : later.rest.length < iteration.rest.length := by
  obtain ⟨rest⟩ := iteration
  cases rest with
  | nil => cases h
  | cons y others =>
    cases h
    exact Nat.lt_succ_self _

/-- All contributions that an iteration yields. -/
def collect (iteration : Iteration α) : List (Shared α) :=
  match h : iteration.next? with
  | none => []
  | some (x, later) =>
    have := length_of_next? h
    x :: later.collect
termination_by iteration.rest.length

theorem collect_eq (iteration : Iteration α) : iteration.collect = iteration.rest := by
  obtain ⟨rest⟩ := iteration
  induction rest with
  | nil =>
    rw [collect]
    rfl
  | cons x others ih =>
    rw [collect]
    exact congrArg (x :: ·) ih

end Iteration

namespace ContributionList

variable {α : Type}

/-- A list without contributions. -/
def empty : ContributionList α := ⟨[]⟩

/-- The contributions in the order of their discovery. -/
def contributions (list : ContributionList α) : List (Shared α) := list.snapshot

/-- Iterate over the contributions. -/
def iter (list : ContributionList α) : Iteration α := ⟨list.snapshot⟩

/-- The number of contributions. -/
def length (list : ContributionList α) : Nat := list.snapshot.length

/-- Whether nothing was contributed. -/
def isEmpty (list : ContributionList α) : Bool := list.snapshot.isEmpty

/-- Whether two lists yield the same instances in the same order. -/
def sameContributions (a b : ContributionList α) : Bool :=
  a.length = b.length && (a.snapshot.zip b.snapshot).all fun pair => pair.1.same pair.2

/-- The form that diagnostics show. -/
def debug (list : ContributionList α) : String :=
  "ContributionList \x7b len: " ++ toString list.length ++ " \x7d"

/-- Two lists yield the same instances exactly if their serials agree one by one. -/
theorem sameContributions_iff (a b : ContributionList α) :
    a.sameContributions b = true ↔ a.snapshot.map (·.serial) = b.snapshot.map (·.serial) := by
  obtain ⟨xs⟩ := a
  obtain ⟨ys⟩ := b
  unfold sameContributions length
  dsimp only
  induction xs generalizing ys with
  | nil => cases ys <;> simp
  | cons x xs ih =>
    cases ys with
    | nil => simp
    | cons y ys =>
      have := ih ys
      simp only [Bool.and_eq_true, decide_eq_true_eq] at this
      simp only [List.length_cons, Nat.add_right_cancel_iff, List.zip_cons_cons, List.all_cons,
        Bool.and_eq_true, decide_eq_true_eq, List.map_cons, List.cons.injEq, Shared.same, ← this]
      exact and_left_comm

end ContributionList

/-! ## Contributions linked into the program -/

/-- A contribution that is part of the program itself. Its instance is made anew whenever it is
    discovered. -/
structure Linked (α : Type) where
  name : String
  description : String
  contribution : α
  deriving Inhabited

/-- Everything linked into the program, in link order. -/
structure LinkedContributions where
  integrators : List (Linked Integrator) := []
  strategies : List (Linked StrategyProvider) := []
  contributors : List (Linked TypeContributor) := []
  deriving Inhabited

/-- What is linked of a kind. -/
def LinkedContributions.of (linked : LinkedContributions) :
    (kind : Capability) → List (Linked kind.Service)
  | .integrator => linked.integrators
  | .strategy => linked.strategies
  | .contributor => linked.contributors

/-- Names and descriptions of the available contributions, by kind. -/
structure AvailableContributions where
  integrators : List (String × String)
  strategies : List (String × String)
  contributors : List (String × String)
  deriving DecidableEq, Inhabited

/-- What is linked, by names and descriptions. -/
def LinkedContributions.available (linked : LinkedContributions) : AvailableContributions :=
  { integrators := linked.integrators.map fun l => (l.name, l.description)
    strategies := linked.strategies.map fun l => (l.name, l.description)
    contributors := linked.contributors.map fun l => (l.name, l.description) }

/-- A section of the listing: its title and a line for each entry. -/
def AvailableContributions.listing (title : String) (entries : List (String × String)) : String :=
  title ++ ":\n" ++ String.join (entries.map fun e => "  - " ++ e.1 ++ ": " ++ e.2 ++ "\n")

/-- The listing shown to a user. -/
def AvailableContributions.describe (available : AvailableContributions) : String :=
  "Linked Contributions:\n\n"
    ++ listing "Integrators" available.integrators ++ "\n"
    ++ listing "Strategy Registration Providers" available.strategies ++ "\n"
    ++ listing "Type Contributors" available.contributors

end UnitBinding
