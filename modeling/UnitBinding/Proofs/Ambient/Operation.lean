import Mathlib.Computability.StateTransition
import UnitBinding.Proofs.Builds.Request

set_option autoImplicit false

/-! # Operations on the ambient resolver

An `Operation` is whatever a thread does with the library while a resolver may be in its slot: it
installs resolvers and drops guards, opens boundaries around other operations, loads types, has
providers build units, looks at the slot, and ends in a value, an error or a panic. What it does
next may depend on everything it saw.

Operations have two meanings. `Operation.run` takes boundaries and builds from the library as they
are. `Machine.step` knows of no boundary: it puts resolvers into the slot and drops guards, one at a
time, and keeps the guards of the operations in progress on a stack, where a panic finds them.
`settles` says that the machine gets where `run` says. -/

namespace UnitBinding

/-! ## Operations -/

/-- What a thread does, up to a value of some type, an error or a panic. Where another operation
    runs within this one, `held` are the guards that this one holds meanwhile, in the order in which
    a panic of the other drops them. -/
inductive Operation : Type → Type 1 where
  /-- The end. -/
  | finish {α : Type} (outcome : Outcome α) : Operation α
  /-- Put a resolver into the slot. The guard may be kept, given away or forgotten. -/
  | install {α : Type} (scope : Scope) (next : Guard → Operation α) : Operation α
  /-- Drop a guard. -/
  | drop {α : Type} (guard : Guard) (next : Operation α) : Operation α
  /-- Look at the slot. -/
  | current {α : Type} (next : Ambient → Operation α) : Operation α
  /-- Load a type. -/
  | load {α : Type} (name : String) (explicit : Option TypeResolver)
    (next : Except Error OwnerType → Operation α) : Operation α
  /-- Run an operation within a boundary. -/
  | boundary {α β : Type} (scope : Scope) (inner : Operation β) (held : List Guard)
    (next : Except Error β → Operation α) : Operation α
  /-- Have a provider build a unit, with what it discovers at that moment. -/
  | build {α : Type} (call : BuildCall) (found : ServiceRegistry.Discovered)
    (builder : Invocation → Operation (Option String)) (held : List Guard)
    (next : Except Error (Option String) → Operation α) : Operation α

namespace Operation

variable {α β : Type}

/-- Drop some guards, one after the other. -/
def dropping (guards : List Guard) (next : Operation α) : Operation α :=
  guards.foldr drop next

/-- What follows the end of an operation within another: a value or an error is handed on, a panic
    drops what is held and goes on. -/
def resume (outcome : Outcome β) (held : List Guard) (next : Except Error β → Operation α) :
    Operation α :=
  match outcome with
  | .ok value => next (.ok value)
  | .error err => next (.error err)
  | .panic message => dropping held (finish (.panic message))

/-- The end of an operation within another, and what follows. -/
def follow (ended : Outcome β × Ambient) (held : List Guard)
    (next : Except Error β → Ambient → Outcome α × Ambient) : Outcome α × Ambient :=
  match ended with
  | (.ok value, slot) => next (.ok value) slot
  | (.error err, slot) => next (.error err) slot
  | (.panic message, slot) =>
    (.panic message, held.foldl (fun _ guard => Ambient.drop guard) slot)

/-- How an operation ends that starts with something in the slot, and what it leaves there. -/
def run {α : Type} : Operation α → Ambient → Outcome α × Ambient
  | finish outcome, slot => (outcome, slot)
  | install scope next, slot =>
    let (guard, installed) := Ambient.install slot scope
    (next guard).run installed
  | drop guard next, _ => next.run (Ambient.drop guard)
  | current next, slot => (next slot).run slot
  | load name explicit next, slot => (next (loadType name explicit slot)).run slot
  | boundary scope inner held next, slot =>
    follow (Ambient.withBoundary scope inner.run slot) held fun result after =>
      (next result).run after
  | build call found builder held next, slot =>
    let request : BuildRequest Unit :=
      { call with
        discovery := .answering found
        builder := fun s invocation inner =>
          let ended := (builder invocation).run inner
          ((ended.1, s), ended.2) }
    let built := request.perform () slot
    follow (built.1.1, built.2) held fun result after => (next result).run after

theorem run_dropping (guards : List Guard) (next : Operation α) (slot : Ambient) :
    (dropping guards next).run slot
      = next.run (guards.foldl (fun _ guard => Ambient.drop guard) slot) := by
  induction guards generalizing slot with
  | nil => rfl
  | cons guard rest ih => exact ih (Ambient.drop guard)

/-- What follows the end of an operation is the same whether it is put together before or after. -/
theorem run_resume (outcome : Outcome β) (held : List Guard)
    (next : Except Error β → Operation α) (slot : Ambient) :
    (resume outcome held next).run slot
      = follow (outcome, slot) held fun result after => (next result).run after := by
  cases outcome with
  | ok value => rfl
  | error err => rfl
  | panic message => exact run_dropping held (finish (.panic message)) slot

end Operation

/-! ## The machine -/

/-- The operations that wait for the end of one that runs within them, up to one with a result of
    type `ρ`. A frame has the guard of the boundary that is open, the guards that the operation
    below holds, and how that goes on. -/
inductive Stack (ρ : Type) : Type → Type 1 where
  | done : Stack ρ ρ
  | frame {α β : Type} (guard : Guard) (held : List Guard) (next : Except Error β → Operation α)
    (rest : Stack ρ α) : Stack ρ β

/-- A thread: what is in its slot, what it is about to do, and what waits for the end of that. -/
structure Machine (ρ : Type) where
  {α : Type}
  slot : Ambient
  operation : Operation α
  stack : Stack ρ α

namespace Machine

variable {ρ α β : Type}

/-- Put a resolver into the slot, and the guard on the stack. -/
def enter (slot : Ambient) (scope : Scope) (inner : Operation β) (held : List Guard)
    (next : Except Error β → Operation α) (stack : Stack ρ α) : Machine ρ :=
  let (guard, installed) := Ambient.install slot scope
  ⟨installed, inner, .frame guard held next stack⟩

/-- Drop the guard on the stack, and go on below. -/
def leave (outcome : Outcome β) (guard : Guard) (held : List Guard)
    (next : Except Error β → Operation α) (stack : Stack ρ α) : Machine ρ :=
  ⟨Ambient.drop guard, .resume outcome held next, stack⟩

/-- One step of a thread. -/
def step : Machine ρ → Option (Machine ρ)
  | ⟨_, .finish _, .done⟩ => none
  | ⟨_, .finish outcome, .frame guard held next rest⟩ =>
    some (leave outcome guard held next rest)
  | ⟨slot, .install scope next, stack⟩ =>
    let (guard, installed) := Ambient.install slot scope
    some ⟨installed, next guard, stack⟩
  | ⟨_, .drop guard next, stack⟩ => some ⟨Ambient.drop guard, next, stack⟩
  | ⟨slot, .current next, stack⟩ => some ⟨slot, next slot, stack⟩
  | ⟨slot, .load name explicit next, stack⟩ =>
    some ⟨slot, next (loadType name explicit slot), stack⟩
  | ⟨slot, .boundary scope inner held next, stack⟩ =>
    some (enter slot scope inner held next stack)
  | ⟨slot, .build call found builder held next, stack⟩ =>
    match call.target.scanned? call.provider with
    | none => some ⟨slot, next (.error (Provider.unknownOrigin call.target.unit)), stack⟩
    | some scanned =>
      let invocation := call.invocation found scanned
      some (enter slot invocation.scope (builder invocation) held next stack)

open StateTransition

/-- The machine gets to the end of an operation, where the library says, and leaves the stack as it
    was. -/
def Settles (ρ : Type) (operation : Operation α) : Prop :=
  ∀ (slot : Ambient) (stack : Stack ρ α), Reaches step ⟨slot, operation, stack⟩
    ⟨(operation.run slot).2, .finish (operation.run slot).1, stack⟩

theorem settles_finish (outcome : Outcome α) : Settles ρ (.finish outcome) :=
  fun _ _ => Relation.ReflTransGen.refl

theorem settles_dropping {next : Operation α} (h : Settles ρ next) (guards : List Guard) :
    Settles ρ (.dropping guards next) := by
  induction guards with
  | nil => exact h
  | cons guard rest ih =>
    intro slot stack
    exact Relation.ReflTransGen.head rfl (ih (Ambient.drop guard) stack)

theorem settles_resume {next : Except Error β → Operation α} (h : ∀ result, Settles ρ (next result))
    (outcome : Outcome β) (held : List Guard) : Settles ρ (.resume outcome held next) := by
  cases outcome with
  | ok value => exact h (.ok value)
  | error err => exact h (.error err)
  | panic message => exact settles_dropping (settles_finish (.panic message)) held

/-- From a boundary on, the machine runs the operation within, on a stack with one frame more, then
    drops the guard of the frame and goes on below. -/
theorem reaches_enter {inner : Operation β} {next : Except Error β → Operation α}
    (hinner : Settles ρ inner) (hnext : ∀ result, Settles ρ (next result)) (slot : Ambient)
    (scope : Scope) (held : List Guard) (stack : Stack ρ α) :
    let after := Operation.follow ((inner.run (some scope)).1, slot) held
      fun result after => (next result).run after
    Reaches step (enter slot scope inner held next stack) ⟨after.2, .finish after.1, stack⟩ := by
  intro after
  have hwithin : Reaches step (enter slot scope inner held next stack)
      ⟨(inner.run (some scope)).2, .finish (inner.run (some scope)).1,
        .frame ⟨slot⟩ held next stack⟩ :=
    hinner (some scope) (.frame ⟨slot⟩ held next stack)
  have hbelow := settles_resume hnext (inner.run (some scope)).1 held slot stack
  rw [Operation.run_resume] at hbelow
  exact hwithin.trans (Relation.ReflTransGen.head rfl hbelow)

/-- **The machine gets where the library says.** Every operation comes to its end in finitely many
    steps, whatever lies on the stack. -/
theorem settles (operation : Operation α) : Settles ρ operation := by
  induction operation with
  | finish outcome => exact settles_finish outcome
  | install scope next ih =>
    intro slot stack
    exact Relation.ReflTransGen.head rfl (ih ⟨slot⟩ (some scope) stack)
  | drop guard next ih =>
    intro slot stack
    exact Relation.ReflTransGen.head rfl (ih (Ambient.drop guard) stack)
  | current next ih =>
    intro slot stack
    exact Relation.ReflTransGen.head rfl (ih slot slot stack)
  | load name explicit next ih =>
    intro slot stack
    exact Relation.ReflTransGen.head rfl (ih (loadType name explicit slot) slot stack)
  | boundary scope inner held next ihInner ihNext =>
    -- the operation within runs on another stack than this one: both hypotheses are for all stacks
    intro slot stack
    exact Relation.ReflTransGen.head rfl (reaches_enter ihInner ihNext slot scope held stack)
  | build call found builder held next ihBuilder ihNext =>
    intro slot stack
    cases hscanned : call.target.scanned? call.provider with
    | none =>
      have hstep : step ⟨slot, .build call found builder held next, stack⟩
          = some ⟨slot, next (.error (Provider.unknownOrigin call.target.unit)), stack⟩ := by
        simp only [step, hscanned]
      rw [Operation.run, BuildRequest.perform_of_none _ hscanned]
      exact Relation.ReflTransGen.head hstep (ihNext _ slot stack)
    | some scanned =>
      have hstep : step ⟨slot, .build call found builder held next, stack⟩
          = some (enter slot (call.invocation found scanned).scope
            (builder (call.invocation found scanned)) held next stack) := by
        simp only [step, hscanned]
      rw [Operation.run, BuildRequest.perform_of_some _ hscanned]
      exact Relation.ReflTransGen.head hstep
        (reaches_enter (ihBuilder _) ihNext slot _ held stack)

end Machine

end UnitBinding
