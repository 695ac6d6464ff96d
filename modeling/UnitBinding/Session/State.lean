import UnitBinding.Hosting
import UnitBinding.Session.Step

set_option autoImplicit false

/-! # Sessions: state

The state of a session has a part that all of its threads share, the `World`, and a part that every thread
has to itself, the `Seat`. Steps run in `Run`, which passes the state along and refuses scripts that refer
to something that was never made. -/

namespace UnitBinding.Session

/-! ## State -/

/-- A process-wide cache other than the one of the session. -/
structure OtherCache (σ : Type) where
  cache : AccessorCache σ
  /-- Whether it looks into the metadata of the session; if not, into none. -/
  overSession : Bool

/-- What the threads of a session share. -/
structure World (σ : Type) where
  platform : TransactionPlatform
  linked : LinkedContributions
  metadata : Metadata σ
  cache : AccessorCache σ
  /-- How often the resolver behind the cache was asked, if that is counted. -/
  calls : Calls
  /-- The configuration, if the session started from one. -/
  config : Option AppConfig
  registries : Table String ServiceRegistry
  bundles : Table String Bundle := Table.empty
  serviceIds : Table String ServiceId := Table.empty
  settings : Table String Settings := Table.empty
  process : ProcessCache
  /-- The process-wide cache, if it is not the one of the session. -/
  other : Option (OtherCache σ) := none
  /-- Milliseconds since the start. -/
  now : Nat := 0
  /-- The serial of the next instance. -/
  next : Nat := 1

/-- What a thread has to itself. -/
structure Seat (σ : Type) where
  ambient : Ambient := none
  guards : Table String Guard := Table.empty
  objects : Table String (Instance σ) := Table.empty
  handles : Table String (Shared (Handle σ)) := Table.empty

/-- The state of a session on one thread. -/
structure State (σ : Type) where
  world : World σ
  seat : Seat σ := {}

/-- The serial of the cache of the session. -/
def sessionCache : Nat := 0

/-- The name of the registry that providers discover from. -/
def mainRegistry : String := "main"

/-- Steps pass the state along; a script can be refused. -/
abbrev Run (σ : Type) := StateT (State σ) (Except String)

namespace Run

variable {σ : Type}

/-! ## Access to the state -/

/-- Change the shared part. -/
def modifyWorld (f : World σ → World σ) : Run σ Unit :=
  modify fun s => { s with world := f s.world }

/-- Change the part of this thread. -/
def modifySeat (f : Seat σ → Seat σ) : Run σ Unit :=
  modify fun s => { s with seat := f s.seat }

/-- A part of the shared state. -/
def world {α : Type} (f : World σ → α) : Run σ α := do return f (← get).world

/-- A part of the state of this thread. -/
def seat {α : Type} (f : Seat σ → α) : Run σ α := do return f (← get).seat

/-- Refuse the script. -/
def refuse {α : Type} (reason : String) : Run σ α := throw reason

/-- What a name stands for. -/
def known {α : Type} (kind name : String) (found : Option α) : Run σ α :=
  match found with
  | some a => pure a
  | none => refuse ("unknown " ++ kind ++ " " ++ name)

/-- Serials for so many new instances: the first of them. -/
def fresh (count : Nat) : Run σ Nat := do
  let first ← world (·.next)
  modifyWorld fun w => { w with next := first + count }
  return first

/-! ## References -/

/-- The bundle that a reference stands for. -/
def bundle : BundleRef → Run σ Bundle
  | .given bundle => pure bundle
  | .named name => do known "bundle" name ((← world (·.bundles)).get? name)

/-- The resolver that a reference stands for. -/
def resolver : ResolverRef → Run σ TypeResolver
  | .ofBundle ref => do return .ofBundle (← bundle ref)
  | .failing label err => pure (.failing label err)

/-- The resolver that a reference stands for, as a new instance. -/
def scope (ref : ResolverRef) : Run σ Scope := do
  let value ← resolver ref
  return ⟨← fresh 1, value⟩

/-- The registry with a name. -/
def registry (name : String) : Run σ ServiceRegistry := do
  known "registry" name ((← world (·.registries)).get? name)

/-- Put a registry under its name. -/
def putRegistry (name : String) (r : ServiceRegistry) : Run σ Unit :=
  modifyWorld fun w => { w with registries := w.registries.set name r }

/-- The program as a host that discovers from a registry. -/
def host (r : ServiceRegistry) : Run σ (Host Sighting) := do
  return { services := r, linked := ← world (·.linked), next := ← world (·.next) }

/-- Go on with the serials that a host left. -/
def leave (h : Host Sighting) : Run σ Unit :=
  modifyWorld fun w => { w with next := h.next }

/-- Everything that a registry discovers now. -/
def discover (r : ServiceRegistry) : Run σ ServiceRegistry.Discovered := do
  let (found, h) := Host.discovery.all (← host r)
  leave h
  return found

/-- The value of a setting, its instances made. -/
def realize : SettingSpec → Run σ SettingValue
  | .value data => pure (.value data)
  | .platform host => pure (.platform host)
  | .integrators list => do
    return .integrators ⟨Shared.numbered (← fresh list.length) list⟩
  | .strategies list => do
    return .strategies ⟨Shared.numbered (← fresh list.length) list⟩
  | .contributors list => do
    return .contributors ⟨Shared.numbered (← fresh list.length) list⟩
  | .scanner ref => do return .scanner (← bundle ref)

/-- The properties that a caller passes. -/
def properties : Properties → Run σ (Option Settings)
  | none => pure none
  | some specs => do
    let pairs ← specs.mapM fun spec => do return (spec.1, ← realize spec.2)
    return some (Table.ofList pairs)

/-- The provider for a bundle. -/
def provider (ref : BundleRef) : Run σ Provider := do
  let requesting ← bundle ref
  return ⟨← world (·.platform), requesting⟩

/-- A scripted builder with its resolver made. -/
def builder (spec : BuilderSpec) : Run σ BuilderScript := do
  let nested ← match spec.nested with
    | none => pure none
    | some ref => some <$> scope ref
  return ⟨spec.loads, nested, spec.integrate, spec.ending⟩

end Run

end UnitBinding.Session
