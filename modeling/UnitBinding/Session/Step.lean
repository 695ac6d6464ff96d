import UnitBinding.Context

set_option autoImplicit false

/-! # Sessions: steps and replies

A session is a script of calls to the library. Its steps name what they make (bundles, objects, handles,
guards, registrations) and refer to it by these names, so that a script is plain data; its replies are
the values that the calls gave. Instances have states of a type `σ`. -/

namespace UnitBinding.Session

/-! ## What steps refer to -/

/-- A bundle, by the name that a step gave it or described on the spot. -/
inductive BundleRef where
  | named (name : String)
  | given (bundle : Bundle)
  deriving Inhabited

/-- A type resolver: of a bundle, or one that always fails. -/
inductive ResolverRef where
  | ofBundle (bundle : BundleRef)
  | failing (label : String) (err : Option Error)
  deriving Inhabited

/-- The value of a setting before its instances are made. -/
inductive SettingSpec where
  | value (data : Json)
  | platform (host : TransactionPlatform)
  | integrators (list : List Integrator)
  | strategies (list : List StrategyProvider)
  | contributors (list : List TypeContributor)
  | scanner (bundle : BundleRef)
  deriving Inhabited

/-- The properties that a caller passes, if any. -/
abbrev Properties := Option (List (String × SettingSpec))

/-- A scripted builder before its resolver is made. -/
structure BuilderSpec where
  loads : List String := []
  nested : Option ResolverRef := none
  integrate : Bool := false
  ending : BuilderEnding := .succeed

/-- Where a handle is looked up. -/
inductive Lookup where
  /-- In the cache of the session. -/
  | cache
  /-- In the metadata, past every cache. -/
  | metadata
  /-- In the process-wide cache. -/
  | processWide
  deriving DecidableEq, Inhabited

/-- A service to register. -/
inductive ServiceSpec where
  | integrator (service : Integrator)
  | strategies (service : StrategyProvider)
  | contributor (service : TypeContributor)
  deriving Inhabited

/-- What a diagnostic text is asked of. -/
inductive DebugTarget where
  | cache
  | services (registry : String)
  | providerService
  | provider (bundle : BundleRef)
  | metadata
  | resolver
  | context
  deriving Inhabited

/-- How the operation within a boundary ends. -/
inductive BoundaryEnding where
  | succeed
  | fail (err : Error)
  | panic
  deriving Inhabited

/-- A property of a type in a source other than the metadata. -/
structure DeclaredRow where
  owner : OwnerType
  under : AccessType
  property : DeclaredProperty
  deriving DecidableEq, Inhabited

/-- A source that answers with the rows of a table. -/
def sourceOf (rows : List DeclaredRow) : PropertySource := fun owner access =>
  rows.filterMap fun row =>
    if row.owner = owner && row.under = access then some row.property else none

/-! ## Steps -/

/-- One call. -/
inductive Step (σ : Type) where
  | register (owner : OwnerType) (properties : List (PropertyMetadata σ))
  | remove (owner : OwnerType)
  | metadata (owner : OwnerType)
  | declared (owner : OwnerType) (access : AccessType)
  | findProperty (owner : OwnerType) (name : String) (access : Option AccessType)
      (table : Option (List DeclaredRow))
  | new (object : String) (owner : OwnerType) (state : σ)
  | dump (object : String)
  | getter (handle : Option String) (lookup : Lookup) (owner : OwnerType)
      (request : PropertyRequest)
  | setter (handle : Option String) (lookup : Lookup) (owner : OwnerType)
      (request : PropertyRequest)
  | get (handle object : String)
  | set (handle object : String) (value : Json)
  | same (a b : String)
  | stats
  | sleep (milliseconds : Nat)
  | debug (target : DebugTarget)
  | bundle (name : String) (bundle : Bundle)
  | scan (bundle : BundleRef)
  | resolve (resolver : ResolverRef) (name : String)
  | loadType (name : String) (resolver : Option ResolverRef)
  | current
  | install (guard : String) (resolver : ResolverRef)
  | previous (guard : String)
  | drop (guard : String)
  | withBoundary (resolver : ResolverRef) (steps : List (Step σ)) (ending : BoundaryEnding)
  | thread (steps : List (Step σ))
  | newRegistry (registry : String) (includeLinked : Option Bool)
  | service (label : Option String) (registry : String) (service : ServiceSpec)
      (ranking : Option Int)
  | unregister (label registry : String)
  | services (registry : String)
  | linked
  | settings (label : Option String) (bundle : BundleRef) (properties : Properties)
  | settingsAgain (label : String)
  | settingsSame (a b : String)
  | build (bundle : BundleRef) (unit : String) (properties : Properties) (builder : BuilderSpec)
  | buildContainer (bundle : BundleRef) (unit : String) (resolver : ResolverRef)
      (properties : Properties) (builder : BuilderSpec)
  | release (bundle : BundleRef)
  | initContext (config : Decoded AppConfig)
  | installGlobal (other : Bool)
  | global

/-! ## Replies -/

/-- How often getters and setters were resolved, if that is counted. -/
abbrev Calls := Option (Nat × Nat)

/-- What a step shows. -/
inductive Reply (σ : Type) where
  | nothing
  | registered (metadata : TypeMetadata σ) (size : Nat)
  | removed (metadata : Option (TypeMetadata σ)) (size : Nat)
  | metadata (metadata : Option (TypeMetadata σ))
  | declared (properties : List DeclaredProperty)
  | found (property : Option DeclaredProperty)
  | object (subject : Instance σ)
  | handle (handle : Handle σ) (calls : Calls)
  | value (value : Json)
  | flag (b : Bool)
  | stats (getters setters : Nat) (calls : Calls)
  | text (s : String)
  | scanned (bundle : Bundle) (result : ScanResult)
  | owner (owner : OwnerType)
  | ambient (slot : Ambient)
  | installed (previous current : Ambient)
  | boundary (steps : List (Outcome (Reply σ))) (result : Outcome Unit) (after : Ambient)
  | thread (steps : List (Outcome (Reply σ)))
  | registry (includesLinked : Bool) (size : Nat)
  | service (id : ServiceId) (size : Nat)
  | unregistered (removed : Bool) (size : Nat)
  | services (found : ServiceRegistry.Discovered) (size : Nat) (includesLinked : Bool)
  | linked (found : ServiceRegistry.Discovered) (available : AvailableContributions)
  | composed (settings : Settings) (requesting : Bundle) (callerUnchanged : Bool)
  | settings (settings : Settings)
  | settingsSame (integrators strategies contributors : Bool)
  | built (result : Outcome (Option String)) (seen : List Sighting) (after : Ambient)
  | context (context : AppContext σ) (isGlobal : Bool) (stats : Nat × Nat)
  | installedGlobal (isInstalled : Bool)
  | global (isSessionCache : Option Bool)

end UnitBinding.Session
