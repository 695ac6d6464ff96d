import UnitBinding.Provider

set_option autoImplicit false

/-! # Providers in use

A provider asks anew for the contributions of every composition, and then hands its settings to a
builder. What it is told, and what the builder does, may depend on a state that all providers share, and
may change it: a `Discovery` and a `HostedBuilder` are given the state and return it. Both ways to build
a unit first discover and then run the builder; a descriptor that does not tell its bundle is refused
before that.

`Host` is the state of a program whose discovery is a service registry. -/

namespace UnitBinding

/-- Answers which services of a kind there are. -/
abbrev Discovery (S : Type) := (kind : Capability) → S → List (Shared kind.Service) × S

/-- Ask for all kinds, one after the other. -/
def Discovery.all {S : Type} (discovery : Discovery S) (s : S) : ServiceRegistry.Discovered × S :=
  let (integrators, s) := discovery .integrator s
  let (strategies, s) := discovery .strategy s
  let (contributors, s) := discovery .contributor s
  (⟨integrators, strategies, contributors⟩, s)

/-- A builder that keeps a state from one call to the next. -/
abbrev HostedBuilder (S : Type) :=
  S → Invocation → Ambient → (Outcome (Option String) × S) × Ambient

/-- A builder in one state. It notes down the state that it leaves. -/
def HostedBuilder.inState {S : Type} (builder : HostedBuilder S) (s : S) : Builder S :=
  fun invocation slot =>
    let ((outcome, s), left) := builder s invocation slot
    ((outcome, [s]), left)

namespace Provider

variable {S : Type}

/-- Discover, and compose the settings of one build. -/
def compose (p : Provider) (discovery : Discovery S) (properties : Option Settings) (s : S) :
    Settings × S :=
  let (found, s) := discovery.all s
  (p.generateSettings found properties, s)

/-- The end of a build with the state afterwards: the one that the builder left, or the one before if
    it was not called. -/
def settle (s : S) (built : (Outcome (Option String) × List S) × Ambient) :
    (Outcome (Option String) × S) × Ambient :=
  ((built.1.1, built.1.2.getLastD s), built.2)

/-- Discover, and build a unit known by name. -/
def buildUnit (p : Provider) (discovery : Discovery S) (builder : HostedBuilder S) (serial : Nat)
    (unit : String) (properties : Option Settings) (s : S) (slot : Ambient) :
    (Outcome (Option String) × S) × Ambient :=
  let (found, s) := discovery.all s
  settle s (p.createUnit (builder.inState s) found serial unit properties slot)

/-- Discover, and build a unit managed by a container. Without the bundle of the descriptor nothing is
    discovered. -/
def buildContainerUnit (p : Provider) (discovery : Discovery S) (builder : HostedBuilder S)
    (serial : Nat) (info : UnitInfo) (properties : Option Settings) (s : S) (slot : Ambient) :
    (Outcome (Option String) × S) × Ambient :=
  match info.resolver.bundle? with
  | none => ((.error (unknownOrigin info.unit), s), slot)
  | some _ =>
    let (found, s) := discovery.all s
    settle s (p.createContainerUnit (builder.inState s) found serial info properties slot)

end Provider

/-! ## Hosts -/

/-- A program that providers run in, with what its builders observed. -/
structure Host (ω : Type) where
  services : ServiceRegistry
  linked : LinkedContributions
  /-- The serial of the next instance. -/
  next : Nat
  observed : List ω := []

/-- The discovery of a program is its service registry. -/
def Host.discovery {ω : Type} : Discovery (Host ω) := fun kind host =>
  (host.services.discoverOf kind host.linked host.next,
    { host with next := host.next + (host.linked.of kind).length })

/-- A builder in a program. -/
def Builder.hosted {ω : Type} (builder : Builder ω) : HostedBuilder (Host ω) :=
  fun host invocation slot =>
    let ((outcome, seen), left) := builder invocation slot
    ((outcome, { host with observed := host.observed ++ seen }), left)

end UnitBinding
