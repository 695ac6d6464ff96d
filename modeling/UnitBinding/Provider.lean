import UnitBinding.Lookup
import UnitBinding.ServiceRegistry
import UnitBinding.Settings

set_option autoImplicit false

/-! # Persistence providers

A provider serves one requesting bundle. It composes the settings that a builder of persistence units
consumes, and runs the builder with the requesting bundle's resolver as the ambient one.

A composition starts from the caller's properties and overwrites four keys: the transaction platform
and the three lists of contributions discovered at that moment. The two ways to build also bind the
scanner: to the requesting bundle for a unit known by name, and to the bundle that a descriptor came
from for a unit managed by a container. -/

namespace UnitBinding

/-- The provider of one requesting bundle. -/
structure Provider where
  platform : TransactionPlatform
  bundle : Bundle
  deriving DecidableEq, Inhabited

/-- The descriptor of a unit managed by a container. -/
structure UnitInfo where
  unit : String
  /-- The resolver that the unit's types were loaded with. -/
  resolver : TypeResolver

/-- The two ways to build a unit. -/
inductive BuildEntry where
  | named
  | container
  deriving DecidableEq, Inhabited

/-- What a builder is called with. -/
structure Invocation where
  entry : BuildEntry
  unit : String
  settings : Settings
  scope : Scope

/-- A builder of persistence units. It starts with some ambient resolver and leaves some ambient
    resolver, ends in the name of the unit it built (or none, if it does not know the unit), and
    notes down observations on its way. -/
abbrev Builder (ω : Type) := Invocation → Ambient → (Outcome (Option String) × List ω) × Ambient

namespace Provider

/-- The settings of one build. -/
def generateSettings (p : Provider) (found : ServiceRegistry.Discovered)
    (properties : Option Settings) : Settings :=
  ((((properties.getD Table.empty).set transactionPlatformKey (.platform p.platform)).set
    integratorsKey (.integrators ⟨found.integrators⟩)).set
    strategiesKey (.strategies ⟨found.strategies⟩)).set
    contributorsKey (.contributors ⟨found.contributors⟩)

/-- The settings of one build with the scanner over a bundle. -/
def boundSettings (p : Provider) (found : ServiceRegistry.Discovered)
    (properties : Option Settings) (scanned : Bundle) : Settings :=
  (p.generateSettings found properties).set scannerKey (.scanner scanned)

/-- Run a builder with the resolver of its invocation as the ambient one. -/
def run {ω : Type} (builder : Builder ω) (invocation : Invocation) (slot : Ambient) :
    (Outcome (Option String) × List ω) × Ambient :=
  Ambient.withBoundary invocation.scope (builder invocation) slot

/-- The resolver of the requesting bundle, as the instance with a serial. -/
def requestingScope (p : Provider) (serial : Nat) : Scope :=
  ⟨serial, TypeResolver.ofBundle p.bundle⟩

/-- Build a unit known by name. -/
def createUnit {ω : Type} (p : Provider) (builder : Builder ω)
    (found : ServiceRegistry.Discovered) (serial : Nat) (unit : String)
    (properties : Option Settings) (slot : Ambient) :
    (Outcome (Option String) × List ω) × Ambient :=
  run builder
    ⟨.named, unit, p.boundSettings found properties p.bundle, p.requestingScope serial⟩ slot

/-- The error for a descriptor that does not tell its bundle. -/
def unknownOrigin (unit : String) : Error :=
  .boundaryResolution ("Type resolver of persistence unit '" ++ unit
    ++ "' does not expose its originating bundle")

/-- Build a unit managed by a container. Without the bundle of the descriptor nothing happens. -/
def createContainerUnit {ω : Type} (p : Provider) (builder : Builder ω)
    (found : ServiceRegistry.Discovered) (serial : Nat) (info : UnitInfo)
    (properties : Option Settings) (slot : Ambient) :
    (Outcome (Option String) × List ω) × Ambient :=
  match info.resolver.bundle? with
  | none => ((.error (unknownOrigin info.unit), []), slot)
  | some scanned =>
    run builder
      ⟨.container, info.unit, p.boundSettings found properties scanned, p.requestingScope serial⟩
      slot

/-- The form that diagnostics show. -/
def debug (p : Provider) : String :=
  "BundlePersistenceProvider \x7b transaction_platform: " ++ Text.quoted p.platform.name
    ++ ", requesting_bundle: " ++ Text.quoted p.bundle.name ++ ", .. \x7d"

/-- A build leaves the ambient resolver as it was, however the builder ended. -/
@[simp] theorem createUnit_slot {ω : Type} (p : Provider) (builder : Builder ω)
    (found : ServiceRegistry.Discovered) (serial : Nat) (unit : String)
    (properties : Option Settings) (slot : Ambient) :
    (p.createUnit builder found serial unit properties slot).2 = slot := rfl

end Provider

/-- The form in which diagnostics show the service that hands out providers. -/
def TransactionPlatform.serviceDebug (platform : TransactionPlatform) : String :=
  "BundlePersistenceProviderService \x7b transaction_platform: " ++ Text.quoted platform.name
    ++ ", .. \x7d"

/-! ## Scripted builders -/

/-- How a scripted builder ends. -/
inductive BuilderEnding where
  | succeed
  /-- The builder does not know the unit. -/
  | unknown
  | fail (err : Option Error)
  | panic

/-- What a scripted builder does: load some types, load them again within another boundary, call
    the integrators, and end. -/
structure BuilderScript where
  loads : List String := []
  nested : Option Scope := none
  integrate : Bool := false
  ending : BuilderEnding := .succeed

/-- What a scripted builder saw within a nested boundary, and the ambient resolver after it. -/
structure NestedSighting where
  ambient : Ambient
  loads : List (Except Error OwnerType)
  ambientAfter : Ambient

/-- What a scripted builder saw. -/
structure Sighting where
  invocation : Invocation
  ambient : Ambient
  loads : List (Except Error OwnerType)
  nested : Option NestedSighting

/-- Whether the ambient resolver was the very instance that the builder was called with. -/
def Sighting.ambientIsScope (s : Sighting) : Bool :=
  s.ambient.any fun scope => scope.same s.invocation.scope

namespace BuilderScript

/-- The types that a builder loads with a resolver in the slot. -/
def loadAll (script : BuilderScript) (slot : Ambient) : List (Except Error OwnerType) :=
  script.loads.map fun name => loadType name none slot

/-- What happens within the nested boundary. -/
def visit (script : BuilderScript) (scope : Scope) (slot : Ambient) : NestedSighting :=
  let ((ambient, loads), after) :=
    Ambient.withBoundary scope (fun inner => ((inner, script.loadAll inner), inner)) slot
  ⟨ambient, loads, after⟩

/-- What a scripted builder sees. -/
def sight (script : BuilderScript) (invocation : Invocation) (slot : Ambient) : Sighting :=
  { invocation
    ambient := slot
    loads := script.loadAll slot
    nested := script.nested.map fun scope => script.visit scope slot }

/-- Call the integrators of the settings one after the other, up to the first failure. -/
def integrateAll (settings : Settings) : Except Error Unit :=
  match (settings.get? integratorsKey).bind SettingValue.asIntegrators? with
  | none => .ok ()
  | some list => list.contributions.forM fun integrator => integrator.value.integrate

/-- The end of a scripted builder, its integrators aside. -/
def conclude (ending : BuilderEnding) (invocation : Invocation) : Outcome (Option String) :=
  match ending, invocation.entry with
  | .succeed, _ => .ok (some invocation.unit)
  | .unknown, .named => .ok none
  | .unknown, .container => .error (.builder "container unit unknown" .none)
  | .fail (some err), _ => .error err
  | .fail none, _ => .error (.builder ("cannot build '" ++ invocation.unit ++ "'") .none)
  | .panic, _ => .panic "builder exploded"

/-- A scripted builder. It leaves the slot as it found it. -/
def toBuilder (script : BuilderScript) : Builder Sighting := fun invocation slot =>
  let integrated := if script.integrate then integrateAll invocation.settings else .ok ()
  let outcome := (Outcome.ofExcept integrated).bind fun _ => conclude script.ending invocation
  ((outcome, [script.sight invocation slot]), slot)

end BuilderScript

end UnitBinding
