import UnitBinding.Hosting

set_option autoImplicit false

/-! # Requests for builds

The two ways to have a provider build a unit are one `BuildRequest` with two targets. A request either
knows the bundle to scan, and then discovers and runs its builder within the boundary of an invocation
(`BuildRequest.perform_of_some`), or is refused (`BuildRequest.perform_of_none`). -/

namespace UnitBinding

/-- What a provider is asked for. -/
inductive BuildTarget where
  | named (unit : String)
  | container (info : UnitInfo)

namespace BuildTarget

/-- The name of the unit. -/
def unit : BuildTarget → String
  | .named unit => unit
  | .container info => info.unit

/-- How the builder is called. -/
def entry : BuildTarget → BuildEntry
  | .named _ => .named
  | .container _ => .container

/-- The bundle to scan, if it can be told: the requesting one for a unit known by name, and the one
    that the descriptor's resolver reports for a unit managed by a container. -/
def scanned? (provider : Provider) : BuildTarget → Option Bundle
  | .named _ => some provider.bundle
  | .container info => info.resolver.bundle?

end BuildTarget

/-- A discovery with answers that are fixed. -/
def Discovery.answering {S : Type} (found : ServiceRegistry.Discovered) : Discovery S
  | .integrator, s => (found.integrators, s)
  | .strategy, s => (found.strategies, s)
  | .contributor, s => (found.contributors, s)

/-- A call of some provider, with the serial of the resolver that it makes. -/
structure BuildCall where
  provider : Provider
  serial : Nat
  properties : Option Settings
  target : BuildTarget

/-- What the builder is called with after a discovery. -/
def BuildCall.invocation (call : BuildCall) (found : ServiceRegistry.Discovered) (scanned : Bundle) :
    Invocation :=
  ⟨call.target.entry, call.target.unit, call.provider.boundSettings found call.properties scanned,
    call.provider.requestingScope call.serial⟩

/-- A call with the discovery and the builder that it is made with. -/
structure BuildRequest (S : Type) extends BuildCall where
  discovery : Discovery S
  builder : HostedBuilder S

namespace BuildRequest

variable {S : Type}

/-- Make the call. -/
def perform (request : BuildRequest S) (s : S) (slot : Ambient) :
    (Outcome (Option String) × S) × Ambient :=
  match request.target with
  | .named unit =>
    request.provider.buildUnit request.discovery request.builder request.serial unit
      request.properties s slot
  | .container info =>
    request.provider.buildContainerUnit request.discovery request.builder request.serial info
      request.properties s slot

/-- Without a bundle to scan nothing happens. -/
theorem perform_of_none (request : BuildRequest S)
    (h : request.target.scanned? request.provider = none) (s : S) (slot : Ambient) :
    request.perform s slot
      = ((.error (Provider.unknownOrigin request.target.unit), s), slot) := by
  obtain ⟨⟨provider, serial, properties, target⟩, discovery, builder⟩ := request
  cases target with
  | named unit => cases h
  | container info =>
    have hbundle : info.resolver.bundle? = none := h
    simp only [perform, Provider.buildContainerUnit, hbundle, BuildTarget.unit]

/-- Any other request discovers, runs the builder with the requesting resolver in the slot, and puts
    the slot back. -/
theorem perform_of_some (request : BuildRequest S) {scanned : Bundle}
    (h : request.target.scanned? request.provider = some scanned) (s : S) (slot : Ambient) :
    let asked := request.discovery.all s
    let invocation := request.invocation asked.1 scanned
    request.perform s slot
      = ((request.builder asked.2 invocation (some invocation.scope)).1, slot) := by
  obtain ⟨⟨provider, serial, properties, target⟩, discovery, builder⟩ := request
  cases target with
  | named unit =>
    obtain rfl : provider.bundle = scanned := Option.some.inj h
    rfl
  | container info =>
    have hbundle : info.resolver.bundle? = some scanned := h
    simp only [perform, Provider.buildContainerUnit, Provider.createContainerUnit, hbundle]
    rfl

/-- No request leaves anything in the slot. -/
theorem perform_slot (request : BuildRequest S) (s : S) (slot : Ambient) :
    (request.perform s slot).2 = slot := by
  cases h : request.target.scanned? request.provider with
  | none => rw [request.perform_of_none h]
  | some scanned => rw [request.perform_of_some h]

end BuildRequest

end UnitBinding
