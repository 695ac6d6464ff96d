import UnitBinding.Proofs.Builds.Request

set_option autoImplicit false

/-! # Builds on the record

How often a discovery is asked and a builder is called does not show in what a build returns. So both
are given a notebook: `Discovery.recorded` notes down every question with its answer, and
`HostedBuilder.recorded` notes down when the builder is entered, with what and under which ambient
resolver, and how it ends. A request made with them has the outcome, the state and the slot of the
request itself (`perform_recorded`), and the notes tell the rest. -/

namespace UnitBinding

variable {S : Type}

/-! ## Notebooks -/

/-- One note. -/
inductive BuildNote where
  /-- The discovery was asked for a kind, and answered. -/
  | asked (kind : Capability) (found : List (Shared kind.Service))
  /-- The builder was entered, with a resolver in the slot. -/
  | entered (invocation : Invocation) (slot : Ambient)
  /-- The builder ended. -/
  | left (outcome : Outcome (Option String))

/-- The notes of asking for all kinds. -/
def ServiceRegistry.Discovered.notes (found : ServiceRegistry.Discovered) : List BuildNote :=
  [.asked .integrator found.integrators, .asked .strategy found.strategies,
    .asked .contributor found.contributors]

/-- A state with the notes taken so far. -/
structure Recorded (S : Type) where
  state : S
  notes : List BuildNote := []

/-- A discovery that takes notes. -/
def Discovery.recorded (discovery : Discovery S) : Discovery (Recorded S) := fun kind book =>
  let (found, s) := discovery kind book.state
  (found, ⟨s, book.notes ++ [.asked kind found]⟩)

/-- A builder that takes notes. -/
def HostedBuilder.recorded (builder : HostedBuilder S) : HostedBuilder (Recorded S) :=
  fun book invocation slot =>
    let ((outcome, s), left) := builder book.state invocation slot
    ((outcome, ⟨s, book.notes ++ [.entered invocation slot, .left outcome]⟩), left)

/-- The request with everybody taking notes. -/
def BuildRequest.recorded (request : BuildRequest S) : BuildRequest (Recorded S) :=
  { request with
    discovery := request.discovery.recorded
    builder := request.builder.recorded }

/-- Each kind is asked for once. -/
theorem Discovery.all_recorded (discovery : Discovery S) (book : Recorded S) :
    discovery.recorded.all book
      = ((discovery.all book.state).1,
        ⟨(discovery.all book.state).2, book.notes ++ (discovery.all book.state).1.notes⟩) := by
  simp only [Discovery.all, Discovery.recorded, ServiceRegistry.Discovered.notes,
    List.append_assoc, List.cons_append, List.nil_append]

/-- A composition leaves the notes of one discovery. -/
theorem Provider.compose_recorded (provider : Provider) (discovery : Discovery S)
    (properties : Option Settings) (book : Recorded S) :
    provider.compose discovery.recorded properties book
      = ((provider.compose discovery properties book.state).1,
        ⟨(provider.compose discovery properties book.state).2,
          book.notes ++ (discovery.all book.state).1.notes⟩) := by
  simp only [Provider.compose, Discovery.all_recorded]

namespace BuildRequest

/-- A build that calls the builder leaves the notes of one discovery and one call. -/
theorem perform_recorded_of_some (request : BuildRequest S) {scanned : Bundle}
    (h : request.target.scanned? request.provider = some scanned) (book : Recorded S)
    (slot : Ambient) :
    let found := (request.discovery.all book.state).1
    let invocation := request.invocation found scanned
    let built := request.perform book.state slot
    request.recorded.perform book slot
      = ((built.1.1, ⟨built.1.2, book.notes ++ found.notes
        ++ [.entered invocation (some invocation.scope), .left built.1.1]⟩), built.2) := by
  intro found invocation built
  have hbuilt : built = ((request.builder (request.discovery.all book.state).2 invocation
      (some invocation.scope)).1, slot) := request.perform_of_some h book.state slot
  rw [hbuilt]
  refine (request.recorded.perform_of_some h book slot).trans ?_
  show ((request.builder.recorded (request.discovery.recorded.all book).2
    (request.invocation (request.discovery.recorded.all book).1 scanned) _).1, slot) = _
  rw [Discovery.all_recorded]
  rfl

/-- **Taking notes changes nothing.** -/
theorem perform_recorded (request : BuildRequest S) (book : Recorded S) (slot : Ambient) :
    let noted := request.recorded.perform book slot
    request.perform book.state slot = ((noted.1.1, noted.1.2.state), noted.2) := by
  cases h : request.target.scanned? request.provider with
  | none =>
    rw [request.recorded.perform_of_none h, request.perform_of_none h]
    rfl
  | some scanned => rw [request.perform_recorded_of_some h]

end BuildRequest

end UnitBinding
