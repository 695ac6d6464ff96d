import Mathlib.Data.List.Forall2
import UnitBinding.Proofs.Builds.Recording

set_option autoImplicit false

/-! # Runs of builds

Any number of providers share a discovery, a builder and the slot of a thread. In a `BuildRun` they
build and compose one after the other, each by the discovery and the builder that it was made with, and
in between anything else may happen to the state and to the slot.

A build sees nothing of those before it, however they ended. What its builder is called with is
determined by the request and by the answers that the discovery gives now (`BuildRequest.Sees`), and no
earlier build has left anything in the slot (`slot_after`). -/

namespace UnitBinding

variable {S : Type}

/-! ## What a builder sees -/

/-- What a builder is called with: the composed settings with a scanner over a bundle, and a resolver of
    the requesting bundle. -/
structure BuildRequest.Sees (request : BuildRequest S) (composed : Settings) (scanned : Bundle)
    (invocation : Invocation) : Prop where
  entry : invocation.entry = request.target.entry
  unit : invocation.unit = request.target.unit
  settings : ∀ key, invocation.settings.get? key
    = if key = scannerKey then some (.scanner scanned) else composed.get? key
  scope : invocation.scope.value.bundle? = some request.provider.bundle

/-- The settings that the provider of a request would compose for itself. -/
def BuildRequest.composed (request : BuildRequest S) (s : S) : Settings :=
  (request.provider.compose request.discovery request.properties s).1

theorem BuildRequest.sees_invocation (request : BuildRequest S) (s : S) (scanned : Bundle) :
    request.Sees (request.composed s) scanned
      (request.invocation (request.discovery.all s).1 scanned) where
  entry := rfl
  unit := rfl
  settings key := by
    split
    · rename_i hkey
      rw [hkey]
      exact Table.get?_set_self _ _ _
    · rename_i hkey
      exact Table.get?_set_of_ne _ _ _ _ hkey
  scope := rfl

/-! ## Events -/

/-- What can happen in a program that providers run in. -/
inductive BuildEvent (S : Type) where
  /-- A provider builds a unit. -/
  | build (request : BuildRequest S)
  /-- A provider composes settings. -/
  | compose (provider : Provider) (discovery : Discovery S) (properties : Option Settings)
  /-- Something else changes the state and the slot. -/
  | meanwhile (change : S → S) (slot : Ambient)

/-- The slot after an event: only something other than a build or a composition changes it. -/
def BuildEvent.leaves (slot : Ambient) : BuildEvent S → Ambient
  | .build _ | .compose .. => slot
  | .meanwhile _ changed => changed

/-- What an event adds to the notes, in some state: a composition asks for each kind once, and a build
    that knows the bundle to scan composes once and calls its builder once. -/
inductive BuildEvent.Noted : BuildEvent S → List BuildNote → Prop
  | refused {request : BuildRequest S} (h : request.target.scanned? request.provider = none) :
    Noted (.build request) []
  | built {request : BuildRequest S} {scanned : Bundle} {invocation : Invocation}
    (h : request.target.scanned? request.provider = some scanned) (s : S)
    (hsees : request.Sees (request.composed s) scanned invocation)
    (outcome : Outcome (Option String)) :
    Noted (.build request) ((request.discovery.all s).1.notes
      ++ [.entered invocation (some invocation.scope), .left outcome])
  | composed {provider : Provider} {discovery : Discovery S} {properties : Option Settings} (s : S) :
    Noted (.compose provider discovery properties) (discovery.all s).1.notes
  | meanwhile {change : S → S} {slot : Ambient} : Noted (.meanwhile change slot) []

/-! ## Runs -/

/-- A state with notes, and the slot of the thread. -/
structure BuildRun (S : Type) where
  book : Recorded S
  slot : Ambient

namespace BuildRun

/-- The run after an event. -/
def step (run : BuildRun S) : BuildEvent S → BuildRun S
  | .build request =>
    let (built, slot) := request.recorded.perform run.book run.slot
    ⟨built.2, slot⟩
  | .compose provider discovery properties =>
    ⟨(provider.compose discovery.recorded properties run.book).2, run.slot⟩
  | .meanwhile change slot => ⟨⟨change run.book.state, run.book.notes⟩, slot⟩

/-- The run after some events. -/
def after (run : BuildRun S) (events : List (BuildEvent S)) : BuildRun S := events.foldl step run

theorem slot_step (run : BuildRun S) (event : BuildEvent S) :
    (run.step event).slot = event.leaves run.slot := by
  cases event with
  | build request =>
    show (request.recorded.perform run.book run.slot).2 = run.slot
    exact request.recorded.perform_slot run.book run.slot
  | compose provider discovery properties => rfl
  | meanwhile change slot => rfl

/-- **One event.** Notes are only added, and those that the event is to add. -/
theorem notes_step (run : BuildRun S) (event : BuildEvent S) :
    ∃ added, (run.step event).book.notes = run.book.notes ++ added ∧ event.Noted added := by
  cases event with
  | build request =>
    show ∃ added, (request.recorded.perform run.book run.slot).1.2.notes = _ ∧ _
    cases h : request.target.scanned? request.provider with
    | none =>
      rw [request.recorded.perform_of_none h]
      exact ⟨[], (List.append_nil _).symm, .refused h⟩
    | some scanned =>
      rw [request.perform_recorded_of_some h]
      refine ⟨_, List.append_assoc .., ?_⟩
      exact .built h run.book.state (request.sees_invocation run.book.state scanned) _
  | compose provider discovery properties =>
    show ∃ added, (provider.compose discovery.recorded properties run.book).2.notes = _ ∧ _
    rw [Provider.compose_recorded]
    exact ⟨_, rfl, .composed run.book.state⟩
  | meanwhile change slot => exact ⟨[], (List.append_nil _).symm, .meanwhile⟩

/-- The slot after a run is the one last put there by something other than a build. -/
theorem slot_after (run : BuildRun S) (events : List (BuildEvent S)) :
    (run.after events).slot = events.foldl BuildEvent.leaves run.slot := by
  induction events generalizing run with
  | nil => rfl
  | cons event rest ih =>
    refine (ih (run.step event)).trans ?_
    rw [slot_step]
    rfl

/-- **A run.** The notes of a run are those of its events, in their order. -/
theorem notes_after (run : BuildRun S) (events : List (BuildEvent S)) :
    ∃ added : List (List BuildNote), (run.after events).book.notes = run.book.notes ++ added.flatten
      ∧ List.Forall₂ BuildEvent.Noted events added := by
  induction events generalizing run with
  | nil => exact ⟨[], (List.append_nil _).symm, List.Forall₂.nil⟩
  | cons event rest ih =>
    obtain ⟨now, hnow, hnoted⟩ := run.notes_step event
    obtain ⟨later, hlater, hrest⟩ := ih (run.step event)
    refine ⟨now :: later, ?_, List.Forall₂.cons hnoted hrest⟩
    refine hlater.trans ?_
    rw [hnow, List.append_assoc, List.flatten_cons]

/-- **What the builder sees and what the caller gets.** After any run of builds, compositions and
    whatever else, take any request. A descriptor that does not tell its bundle is refused by name, with
    nothing asked, no builder called, and state and slot as they were. Otherwise the discovery is asked
    for each kind once, and the builder is called once: with what its provider composes at that moment
    and a scanner over the bundle in question, with a resolver of the requesting bundle, and with that
    very resolver in the slot. The caller gets what the builder ended in, and the slot is as it was. In
    the run before, every event has added to the notes what it had to, and builds have left the slot
    alone. -/
theorem build_of_reachable (start : BuildRun S) (events : List (BuildEvent S))
    (request : BuildRequest S) :
    let run := start.after events
    let built := request.recorded.perform run.book run.slot
    let outcome := built.1.1
    let book := built.1.2
    request.perform run.book.state run.slot = ((outcome, book.state), run.slot)
      ∧ built.2 = run.slot
      ∧ (match request.target.scanned? request.provider with
        | none => book = run.book ∧ outcome = .error (.boundaryResolution
          ("Type resolver of persistence unit '" ++ request.target.unit
            ++ "' does not expose its originating bundle"))
        | some scanned => ∃ invocation,
          request.Sees (request.composed run.book.state) scanned invocation
            ∧ book.notes = run.book.notes ++ (request.discovery.all run.book.state).1.notes
              ++ [.entered invocation (some invocation.scope), .left outcome])
      ∧ run.slot = events.foldl BuildEvent.leaves start.slot
      ∧ ∃ added : List (List BuildNote), run.book.notes = start.book.notes ++ added.flatten
        ∧ List.Forall₂ BuildEvent.Noted events added := by
  intro run built outcome book
  have hslot : built.2 = run.slot := request.recorded.perform_slot run.book run.slot
  have hplain : request.perform run.book.state run.slot = ((outcome, book.state), built.2) :=
    request.perform_recorded run.book run.slot
  refine ⟨hslot ▸ hplain, hslot, ?_, start.slot_after events, start.notes_after events⟩
  cases h : request.target.scanned? request.provider with
  | none =>
    have hbuilt : built.1 = _ :=
      congrArg Prod.fst (request.recorded.perform_of_none h run.book run.slot)
    exact ⟨congrArg Prod.snd hbuilt, congrArg Prod.fst hbuilt⟩
  | some scanned =>
    have hbuilt : built.1 = _ :=
      congrArg Prod.fst (request.perform_recorded_of_some h run.book run.slot)
    refine ⟨_, request.sees_invocation run.book.state scanned, ?_⟩
    show built.1.2.notes = _ ++ [_, .left built.1.1]
    rw [hbuilt]

end BuildRun

end UnitBinding
