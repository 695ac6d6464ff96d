import UnitBinding.Session.State

set_option autoImplicit false

/-! # Sessions: running

`Run.steps` runs the steps of a script one after the other. A step that ends in an error or a panic ends
no more than itself. Steps within a boundary, or on another thread, are scripts of their own. -/

namespace UnitBinding.Session

/-! ## Starting -/

/-- How a session starts. -/
structure Setup where
  platform : TransactionPlatform := ⟨"host-jta", true⟩
  linked : LinkedContributions := {}
  limits : CacheLimits := ⟨defaultCapacity, some (defaultIdleSeconds * 1000)⟩
  includeLinked : Bool := false
  /-- Whether calls of the resolver are counted. -/
  counted : Bool := true

namespace State

variable {σ : Type}

/-- Start with a cache and a registry of their own. -/
def start (setup : Setup) : Outcome (State σ) := do
  let cache ← AccessorCache.build setup.limits
  return {
    world := {
      platform := setup.platform
      linked := setup.linked
      metadata := Metadata.empty
      cache
      calls := if setup.counted then some (0, 0) else none
      config := none
      registries := Table.empty.set mainRegistry (ServiceRegistry.new setup.includeLinked)
      process := {} } }

/-- Start from a configuration. -/
def startFrom (config : AppConfig) (platform : TransactionPlatform)
    (linked : LinkedContributions) : Outcome (State σ) := do
  let (outcome, process) := AppContext.init (σ := σ) {} config platform sessionCache
  let context ← outcome
  return {
    world := {
      platform
      linked
      metadata := context.metadata
      cache := context.cache.value
      calls := none
      config := some config
      registries := Table.empty.set mainRegistry context.services
      process } }

end State

namespace Run

variable {σ : Type}

/-! ## Handles -/

/-- Count a call of the resolver, if one was made. -/
def countCall (resolved : Bool) (count : Nat × Nat → Nat × Nat) : Run σ Unit :=
  if resolved then modifyWorld fun w => { w with calls := w.calls.map count } else pure ()

/-- Keep a handle under a label. -/
def keep (label : Option String) (handle : Shared (Handle σ)) : Run σ Unit :=
  match label with
  | none => pure ()
  | some label => modifySeat fun s => { s with handles := s.handles.set label handle }

/-- The process-wide cache, if it is another one than that of the session. -/
def processWide : Run σ (Option (OtherCache σ)) := do
  match (← world (·.process)).installed with
  | none => refuse "no process-wide cache"
  | some serial => if serial = sessionCache then pure none else world (·.other)

/-- Look a handle up in the cache of the session. -/
def lookupSession {H : Type} (count : Nat × Nat → Nat × Nat)
    (find : AccessorCache σ → Metadata σ → Nat → Nat → AccessorCache.Answer σ H) :
    Run σ (Except Error (Shared H)) := do
  let serial ← fresh 1
  let w ← world id
  let answer := find w.cache w.metadata w.now serial
  modifyWorld fun w => { w with cache := answer.cache }
  countCall answer.resolved count
  return answer.result

/-- Look a handle up in a cache that is not the one of the session. -/
def lookupOther {H : Type} (other : OtherCache σ)
    (find : AccessorCache σ → Metadata σ → Nat → Nat → AccessorCache.Answer σ H) :
    Run σ (Except Error (Shared H)) := do
  let serial ← fresh 1
  let w ← world id
  let metadata := if other.overSession then w.metadata else Metadata.empty
  let answer := find other.cache metadata w.now serial
  modifyWorld fun w => { w with other := some { other with cache := answer.cache } }
  return answer.result

/-- Look a handle up. -/
def lookup {H : Type} (source : Lookup) (count : Nat × Nat → Nat × Nat)
    (find : AccessorCache σ → Metadata σ → Nat → Nat → AccessorCache.Answer σ H)
    (direct : Metadata σ → Except Error H) : Run σ (Except Error (Shared H)) := do
  match source with
  | .cache => lookupSession count find
  | .metadata => do
    let serial ← fresh 1
    return (direct (← world (·.metadata))).map fun h => ⟨serial, h⟩
  | .processWide => do
    match ← processWide with
    | none => lookupSession count find
    | some other => lookupOther other find

/-- The reply to a lookup. -/
def replyHandle {H : Type} (label : Option String) (wrap : H → Handle σ)
    (found : Except Error (Shared H)) : Run σ (Outcome (Reply σ)) := do
  match found with
  | .error err => return .error err
  | .ok handle =>
    keep label ⟨handle.serial, wrap handle.value⟩
    return .ok (.handle (wrap handle.value) (← world (·.calls)))

/-- Look a getter up. -/
def getter (label : Option String) (source : Lookup) (owner : OwnerType)
    (request : PropertyRequest) : Run σ (Outcome (Reply σ)) := do
  let found ← lookup source (fun c => (c.1 + 1, c.2))
    (fun cache metadata now serial => cache.getGetter metadata now serial owner request)
    (fun metadata => request.resolve.bind fun r => metadata.getter owner r.1 r.2)
  replyHandle label .getter found

/-- Look a setter up. -/
def setter (label : Option String) (source : Lookup) (owner : OwnerType)
    (request : PropertyRequest) : Run σ (Outcome (Reply σ)) := do
  let found ← lookup source (fun c => (c.1, c.2 + 1))
    (fun cache metadata now serial => cache.getSetter metadata now serial owner request)
    (fun metadata => request.resolve.bind fun r => metadata.setter owner r.1 r.2)
  replyHandle label .setter found

/-- The handle with a label. -/
def handle (label : String) : Run σ (Shared (Handle σ)) := do
  known "handle" label ((← seat (·.handles)).get? label)

/-- The object with a label. -/
def object (label : String) : Run σ (Instance σ) := do
  known "object" label ((← seat (·.objects)).get? label)

/-- Read a property. -/
def get (handleLabel objectLabel : String) : Run σ (Outcome (Reply σ)) := do
  match (← handle handleLabel).value with
  | .setter _ => refuse (handleLabel ++ " is no getter")
  | .getter g =>
    let o ← object objectLabel
    return (Outcome.ofExcept (g.get o)).map .value

/-- Write a property. -/
def set (handleLabel objectLabel : String) (value : Json) : Run σ (Outcome (Reply σ)) := do
  match (← handle handleLabel).value with
  | .getter _ => refuse (handleLabel ++ " is no setter")
  | .setter s =>
    let o ← object objectLabel
    match s.set o value with
    | .error err => return .error err
    | .ok o =>
      modifySeat fun seat => { seat with objects := seat.objects.set objectLabel o }
      return .ok .nothing

/-- Whether two handles are the same instance. -/
def sameHandle (a b : Shared (Handle σ)) : Bool :=
  match a.value, b.value with
  | .getter _, .getter _ | .setter _, .setter _ => a.same b
  | _, _ => false

/-! ## Diagnostics -/

/-- A diagnostic text. -/
def debug : DebugTarget → Run σ String
  | .cache => do return (← world (·.cache)).debug (← world (·.now))
  | .services name => do return (← registry name).debug
  | .providerService => do return (← world (·.platform)).serviceDebug
  | .provider ref => do return (← provider ref).debug
  | .metadata => do return (← world (·.metadata)).debug
  | .resolver => do return (← world (·.metadata)).resolverDebug
  | .context => do
    match ← world (·.config) with
    | none => refuse "no context"
    | some config =>
      let services ← registry mainRegistry
      let w ← world id
      let context : AppContext σ :=
        ⟨config, w.metadata, ⟨sessionCache, w.cache⟩, services, w.platform⟩
      return context.debug w.now

/-! ## Boundaries -/

/-- The guard with a label. -/
def guard (label : String) : Run σ Guard := do
  known "guard" label ((← seat (·.guards)).get? label)

/-- Put something into the slot of this thread. -/
def setAmbient (slot : Ambient) : Run σ Unit :=
  modifySeat fun s => { s with ambient := slot }

/-- Install a resolver. -/
def install (label : String) (ref : ResolverRef) : Run σ (Reply σ) := do
  let scope ← scope ref
  let before ← seat (·.ambient)
  let (guard, slot) := Ambient.install before scope
  setAmbient slot
  modifySeat fun s => { s with guards := s.guards.set label guard }
  return .installed before slot

/-- Drop a guard. -/
def drop (label : String) : Run σ (Reply σ) := do
  let g ← guard label
  setAmbient (Ambient.drop g)
  modifySeat fun s => { s with guards := s.guards.erase label }
  return .ambient (← seat (·.ambient))

/-- Load a type. -/
def loadType (name : String) (ref : Option ResolverRef) : Run σ (Outcome (Reply σ)) := do
  let explicit ← match ref with
    | none => pure none
    | some ref => some <$> resolver ref
  return (Outcome.ofExcept (UnitBinding.loadType name explicit (← seat (·.ambient)))).map .owner

/-- The end of an operation within a boundary. -/
def conclude : BoundaryEnding → Outcome Unit
  | .succeed => .ok ()
  | .fail err => .error err
  | .panic => .panic "unexpected fault"

/-! ## Services -/

/-- Register a service. -/
def service (label : Option String) (name : String) (spec : ServiceSpec)
    (ranking : Option Int) : Run σ (Reply σ) := do
  let r ← registry name
  let serial ← fresh 1
  let rank := ranking.getD defaultRanking
  let updated := match spec with
    | .integrator s => r.register .integrator ⟨serial, s⟩ rank
    | .strategies s => r.register .strategy ⟨serial, s⟩ rank
    | .contributor s => r.register .contributor ⟨serial, s⟩ rank
  putRegistry name updated
  match label with
  | none => pure ()
  | some label => modifyWorld fun w => { w with serviceIds := w.serviceIds.set label r.nextId }
  return .service r.nextId updated.size

/-- Take a registration away. -/
def unregister (label name : String) : Run σ (Reply σ) := do
  let id ← known "service" label ((← world (·.serviceIds)).get? label)
  let (removed, r) := (← registry name).unregister id
  putRegistry name r
  return .unregistered removed r.size

/-- What a registry shows. -/
def services (name : String) : Run σ (Reply σ) := do
  let r ← registry name
  return .services (← discover r) r.size r.includeLinked

/-- What is linked into the program. -/
def linkedOnly : Run σ (Reply σ) := do
  let available := (← world (·.linked)).available
  return .linked (← discover (ServiceRegistry.new true)) available

/-! ## Providers -/

/-- Compose settings. -/
def compose (label : Option String) (ref : BundleRef) (specs : Properties) :
    Run σ (Reply σ) := do
  let p ← provider ref
  let caller ← properties specs
  let (settings, h) := p.compose Host.discovery caller (← host (← registry mainRegistry))
  leave h
  match label with
  | none => pure ()
  | some label => modifyWorld fun w => { w with settings := w.settings.set label settings }
  return .composed settings p.bundle true

/-- Settings that were composed before. -/
def composed (label : String) : Run σ Settings := do
  known "settings" label ((← world (·.settings)).get? label)

/-- Whether two settings hold the same contributions under a key. -/
def sameUnder {α : Type} (key : String)
    (select : SettingValue → Option (ContributionList α)) (a b : Settings) : Bool :=
  match (a.get? key).bind select, (b.get? key).bind select with
  | some x, some y => x.sameContributions y
  | _, _ => false

/-- Compare the contributions of two settings. -/
def compare (a b : Settings) : Reply σ :=
  .settingsSame (sameUnder integratorsKey SettingValue.asIntegrators? a b)
    (sameUnder strategiesKey SettingValue.asStrategies? a b)
    (sameUnder contributorsKey SettingValue.asContributors? a b)

/-- Show a build and keep what it left. -/
def replyBuilt (built : (Outcome (Option String) × Host Sighting) × Ambient) :
    Run σ (Reply σ) := do
  leave built.1.2
  setAmbient built.2
  return .built built.1.1 built.1.2.observed built.2

/-- Build a unit known by name. -/
def build (ref : BundleRef) (unit : String) (specs : Properties) (spec : BuilderSpec) :
    Run σ (Reply σ) := do
  let p ← provider ref
  let caller ← properties specs
  let script ← builder spec
  let serial ← fresh 1
  let h ← host (← registry mainRegistry)
  replyBuilt (p.buildUnit Host.discovery script.toBuilder.hosted serial unit caller h
    (← seat (·.ambient)))

/-- Build a unit managed by a container. -/
def buildContainer (ref : BundleRef) (unit : String) (origin : ResolverRef)
    (specs : Properties) (spec : BuilderSpec) : Run σ (Reply σ) := do
  let p ← provider ref
  let info : UnitInfo := ⟨unit, ← resolver origin⟩
  let caller ← properties specs
  let script ← builder spec
  let serial ← fresh 1
  let h ← host (← registry mainRegistry)
  replyBuilt (p.buildContainerUnit Host.discovery script.toBuilder.hosted serial info caller h
    (← seat (·.ambient)))

/-! ## The process -/

/-- Start another context. -/
def initContext (config : Decoded AppConfig) : Run σ (Outcome (Reply σ)) := do
  match config with
  | .error mismatch => return .error (.ofMismatch mismatch)
  | .ok config =>
    let serial ← fresh 1
    let w ← world id
    let (outcome, process) := AppContext.init (σ := σ) w.process config w.platform serial
    match outcome with
    | .error err => return .error err
    | .panic message => return .panic message
    | .ok context =>
      let isGlobal := process.installed = some serial
      modifyWorld fun w =>
        { w with
          process
          other := if isGlobal then some ⟨context.cache.value, false⟩ else w.other }
      return .ok (.context context isGlobal (context.cache.value.stats w.now))

/-- Install the cache of the session, or a new one over the same metadata, for the process. -/
def installGlobal (other : Bool) : Run σ (Outcome (Reply σ)) := do
  let serial ← if other then fresh 1 else pure sessionCache
  let (result, process) := (← world (·.process)).install serial
  match result with
  | .error err => return .error err
  | .ok installed =>
    modifyWorld fun w =>
      { w with process, other := if other then some ⟨AccessorCache.default, true⟩ else w.other }
    return .ok (.installedGlobal (installed = serial))

/-! ## Steps -/

mutual

/-- Run a step. -/
def step : Step σ → Run σ (Outcome (Reply σ))
  | .register owner properties => do
    let m := (TypeMetadata.begin owner).declareAll properties
    modifyWorld fun w => { w with metadata := w.metadata.register m }
    return .ok (.registered m (← world (·.metadata)).size)
  | .remove owner => do
    let before := (← world (·.metadata)).get? owner
    modifyWorld fun w => { w with metadata := w.metadata.remove owner }
    return .ok (.removed before (← world (·.metadata)).size)
  | .metadata owner => do return .ok (.metadata ((← world (·.metadata)).get? owner))
  | .declared owner access => do
    return .ok (.declared ((← world (·.metadata)).declaredProperties owner access))
  | .findProperty owner name access table => do
    let source : PropertySource ← match table with
      | some rows => pure (sourceOf rows)
      | none => do pure (← world (·.metadata)).declaredProperties
    return .ok (.found (match access with
      | some access => findPropertyWith source owner name access
      | none => UnitBinding.findProperty source owner name))
  | .new label owner state => do
    modifySeat fun s => { s with objects := s.objects.set label ⟨owner, state⟩ }
    return .ok .nothing
  | .dump label => do return .ok (.object (← object label))
  | .getter label source owner request => getter label source owner request
  | .setter label source owner request => setter label source owner request
  | .get h o => get h o
  | .set h o value => set h o value
  | .same a b => do return .ok (.flag (sameHandle (← handle a) (← handle b)))
  | .stats => do
    let w ← world id
    let (getters, setters) := w.cache.stats w.now
    return .ok (.stats getters setters w.calls)
  | .sleep milliseconds => do
    modifyWorld fun w => { w with now := w.now + milliseconds }
    return .ok .nothing
  | .debug target => do return .ok (.text (← debug target))
  | .bundle name bundle => do
    modifyWorld fun w => { w with bundles := w.bundles.set name bundle }
    return .ok .nothing
  | .scan ref => do
    let b ← bundle ref
    return .ok (.scanned b b.scan)
  | .resolve ref name => do
    return (Outcome.ofExcept ((← resolver ref).resolve name)).map .owner
  | .loadType name ref => loadType name ref
  | .current => do return .ok (.ambient (← seat (·.ambient)))
  | .install label ref => do return .ok (← install label ref)
  | .previous label => do return .ok (.ambient (← guard label).previous)
  | .drop label => do return .ok (← drop label)
  | .withBoundary ref script ending => do
    let scope ← scope ref
    let (guard, slot) := Ambient.install (← seat (·.ambient)) scope
    setAmbient slot
    let replies ← steps script
    setAmbient (Ambient.drop guard)
    return .ok (.boundary replies (conclude ending) (← seat (·.ambient)))
  | .thread script => do
    let outer ← seat id
    modifySeat fun _ => {}
    let replies ← steps script
    modifySeat fun _ => outer
    return .ok (.thread replies)
  | .newRegistry name includeLinked => do
    let r := match includeLinked with
      | some includeLinked => ServiceRegistry.new includeLinked
      | none => ServiceRegistry.default
    putRegistry name r
    return .ok (.registry r.includeLinked r.size)
  | .service label name spec ranking => do return .ok (← service label name spec ranking)
  | .unregister label name => do return .ok (← unregister label name)
  | .services name => do return .ok (← services name)
  | .linked => do return .ok (← linkedOnly)
  | .settings label ref specs => do return .ok (← compose label ref specs)
  | .settingsAgain label => do return .ok (.settings (← composed label))
  | .settingsSame a b => do return .ok (compare (← composed a) (← composed b))
  | .build ref unit specs spec => do return .ok (← build ref unit specs spec)
  | .buildContainer ref unit origin specs spec => do
    return .ok (← buildContainer ref unit origin specs spec)
  | .release ref => do
    let _ ← provider ref
    return .ok .nothing
  | .initContext config => initContext config
  | .installGlobal other => installGlobal other
  | .global => do
    return .ok (.global ((← world (·.process)).installed.map fun serial => serial = sessionCache))

/-- Run the steps of a script. -/
def steps : List (Step σ) → Run σ (List (Outcome (Reply σ)))
  | [] => pure []
  | s :: rest => do
    let reply ← step s
    return reply :: (← steps rest)

end

end Run

/-- The replies of a script, or why it is refused. -/
def run {σ : Type} (state : State σ) (script : List (Step σ)) :
    Except String (List (Outcome (Reply σ))) :=
  (Run.steps script state).map (·.1)

end UnitBinding.Session
