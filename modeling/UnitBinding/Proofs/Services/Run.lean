import Mathlib.Algebra.Group.Nat.Defs
import UnitBinding.Proofs.Services.Registration

set_option autoImplicit false

/-! # Runs of a service registry

A run is a list of registrations of all kinds and of attempts to take registrations away, by whatever
ids. `ServiceRegistry.issued` are the ids that it hands out, and `taken` those whose registrations were
taken away.

An id is searched among the integrators, then among the strategies, then among the contributors, and
only the first kind that has it loses a registration. That this is the right one is due to the counter
that all kinds draw from: `Orderly` says that every id in use is below the counter and stands for one
registration of one kind. Every event keeps this while the counter does not start over, and makes each
event do the same to all kinds (`registered_step`). -/

namespace UnitBinding

/-! ## Events -/

/-- What can happen to a registry. -/
inductive ServiceEvent where
  /-- A service is registered, with a ranking or without. -/
  | register (kind : Capability) (service : Shared kind.Service) (ranking : Option Int)
  /-- An attempt to take a registration away. -/
  | unregister (id : ServiceId)

namespace ServiceEvent

/-- Whether a service is registered. -/
def isRegistration : ServiceEvent → Bool
  | .register .. => true
  | .unregister _ => false

/-- Whether a registration with an id is taken away. -/
def unregisters (event : ServiceEvent) (id : ServiceId) : Bool :=
  match event with
  | .register .. => false
  | .unregister taken => taken = id

/-- The registration of a kind that an event makes under an id, if it makes one. -/
def registration (id : ServiceId) :
    (kind : Capability) → ServiceEvent → List (Registration kind.Service)
  | .integrator, .register .integrator service ranking =>
    [⟨id, ranking.getD defaultRanking, service⟩]
  | .strategy, .register .strategy service ranking =>
    [⟨id, ranking.getD defaultRanking, service⟩]
  | .contributor, .register .contributor service ranking =>
    [⟨id, ranking.getD defaultRanking, service⟩]
  | _, _ => []

theorem registration_self (id : ServiceId) (kind : Capability) (service : Shared kind.Service)
    (ranking : Option Int) :
    registration id kind (.register kind service ranking)
      = [⟨id, ranking.getD defaultRanking, service⟩] := by
  cases kind <;> rfl

theorem registration_of_ne (id : ServiceId) {kind other : Capability} (h : other ≠ kind)
    (service : Shared kind.Service) (ranking : Option Int) :
    registration id other (.register kind service ranking) = [] := by
  cases kind <;> cases other <;> first | rfl | exact absurd rfl h

theorem registration_unregister (id taken : ServiceId) (kind : Capability) :
    registration id kind (.unregister taken) = [] := by
  cases kind <;> rfl

/-- An event makes no registration of a kind, or one under the id that it is given … -/
theorem registration_eq (id : ServiceId) (kind : Capability) (event : ServiceEvent) :
    registration id kind event = []
      ∨ ∃ x, registration id kind event = [x] ∧ x.id = id := by
  cases event with
  | register other service ranking =>
    by_cases hkind : kind = other
    · subst hkind
      exact Or.inr ⟨_, registration_self id kind service ranking, rfl⟩
    · exact Or.inl (registration_of_ne id hkind service ranking)
  | unregister taken => exact Or.inl (registration_unregister id taken kind)

theorem id_of_mem_registration {id : ServiceId} {kind : Capability} {event : ServiceEvent}
    {x : Registration kind.Service} (h : x ∈ registration id kind event) : x.id = id := by
  rcases registration_eq id kind event with hnone | ⟨y, hone, hid⟩
  · rw [hnone] at h
    cases h
  · rw [hone] at h
    rw [List.mem_singleton.1 h, hid]

/-- … of one kind, … -/
theorem kind_of_mem_registration {id : ServiceId} {kind other : Capability} {event : ServiceEvent}
    {x : Registration kind.Service} {y : Registration other.Service}
    (hx : x ∈ registration id kind event) (hy : y ∈ registration id other event) :
    kind = other := by
  cases event with
  | register made service ranking =>
    by_contra hne
    by_cases hkind : kind = made
    · rw [registration_of_ne id (hkind ▸ Ne.symm hne)] at hy
      cases hy
    · rw [registration_of_ne id hkind] at hx
      cases hx
  | unregister taken =>
    rw [registration_unregister] at hx
    cases hx

/-- … and only if it is a registration. -/
theorem isRegistration_of_mem {id : ServiceId} {kind : Capability} {event : ServiceEvent}
    {x : Registration kind.Service} (h : x ∈ registration id kind event) :
    event.isRegistration = true := by
  cases event with
  | register other service ranking => rfl
  | unregister taken =>
    rw [registration_unregister] at h
    cases h

end ServiceEvent

/-- The number of registrations among some events. -/
def registrationCount (events : List ServiceEvent) : Nat :=
  events.countP ServiceEvent.isRegistration

theorem registrationCount_cons (event : ServiceEvent) (rest : List ServiceEvent) :
    registrationCount (event :: rest)
      = registrationCount rest + if event.isRegistration then 1 else 0 :=
  List.countP_cons ..

theorem registrationCount_append (first second : List ServiceEvent) :
    registrationCount (first ++ second) = registrationCount first + registrationCount second :=
  List.countP_append ..

namespace ServiceRegistry

/-- The registry after an event. -/
def step (r : ServiceRegistry) : ServiceEvent → ServiceRegistry
  | .register kind service ranking => r.register kind service (ranking.getD defaultRanking)
  | .unregister id => (r.unregister id).2

/-- The registry after some events. -/
def after (r : ServiceRegistry) (events : List ServiceEvent) : ServiceRegistry :=
  events.foldl step r

/-- The id that an event hands out, if it hands out one. -/
def issue (r : ServiceRegistry) : ServiceEvent → List ServiceId
  | .register .. => [r.nextId]
  | .unregister _ => []

/-- The id whose registration an event takes away, if it succeeds. -/
def take (r : ServiceRegistry) : ServiceEvent → List ServiceId
  | .register .. => []
  | .unregister id => if (r.unregister id).1 then [id] else []

/-- The ids handed out in the course of some events. -/
def issued (r : ServiceRegistry) : List ServiceEvent → List ServiceId
  | [] => []
  | event :: rest => r.issue event ++ (r.step event).issued rest

/-- The ids whose registrations were taken away in the course of some events. -/
def taken (r : ServiceRegistry) : List ServiceEvent → List ServiceId
  | [] => []
  | event :: rest => r.take event ++ (r.step event).taken rest

/-- Whether an id stands for a registration. -/
def Holds (r : ServiceRegistry) (id : ServiceId) : Prop :=
  ∃ kind, Registration.present id (r.registered kind) = true

/-! ## Taking a registration away -/

theorem kindOf?_eq_none_iff {r : ServiceRegistry} {id : ServiceId} :
    r.kindOf? id = none ↔ ¬ r.Holds id := by
  rw [kindOf?, List.find?_eq_none]
  constructor
  · rintro h ⟨kind, hkind⟩
    exact h kind (by cases kind <;> decide) hkind
  · intro h kind _ hkind
    exact h ⟨kind, hkind⟩

theorem present_of_kindOf? {r : ServiceRegistry} {id : ServiceId} {kind : Capability}
    (h : r.kindOf? id = some kind) : Registration.present id (r.registered kind) = true :=
  List.find?_some (p := fun kind => Registration.present id (r.registered kind)) h

theorem unregister_of_not_holds {r : ServiceRegistry} {id : ServiceId} (h : ¬ r.Holds id) :
    r.unregister id = (false, r) := by
  rw [unregister, kindOf?_eq_none_iff.2 h]

/-- An attempt succeeds exactly if the id stands for a registration. -/
theorem unregister_fst_iff {r : ServiceRegistry} {id : ServiceId} :
    (r.unregister id).1 = true ↔ r.Holds id := by
  rw [unregister]
  cases hkind : r.kindOf? id with
  | none => simp [kindOf?_eq_none_iff.1 hkind]
  | some kind => simp [show r.Holds id from ⟨kind, present_of_kindOf? hkind⟩]

/-! ## The invariant -/

/-- Ids are in order: those of each kind grow in the order of registration, all are below the
    counter, and no id stands for registrations of two kinds. -/
structure Orderly (r : ServiceRegistry) : Prop where
  ascending : ∀ kind, Registration.Ascending (r.registered kind)
  below : ∀ kind, ∀ x ∈ r.registered kind, x.id.index < r.next
  apart : ∀ {kind other}, kind ≠ other → ∀ id,
    Registration.present id (r.registered kind) = true →
    Registration.present id (r.registered other) = false

/-- Some events can happen without the counter starting over. -/
def Roomy (r : ServiceRegistry) (events : List ServiceEvent) : Prop :=
  r.next.toNat + registrationCount events < 2 ^ 64

theorem orderly_new (includeLinked : Bool) : (new includeLinked).Orderly where
  ascending kind := by cases kind <;> exact List.Pairwise.nil
  below kind x hx := by cases kind <;> cases hx
  apart {kind other} _ id _ := by cases other <;> rfl

theorem roomy_new (includeLinked : Bool) {events : List ServiceEvent}
    (h : registrationCount events < 2 ^ 64 - 1) : (new includeLinked).Roomy events := by
  have hnext : (new includeLinked).next.toNat = 1 := rfl
  rw [Roomy, hnext]
  omega

/-- A registration is an entry of its kind under the counter's id … -/
theorem registered_register_self {r : ServiceRegistry} (h : r.Orderly) (kind : Capability)
    (service : Shared kind.Service) (ranking : Int) :
    (r.register kind service ranking).registered kind
      = r.registered kind ++ [⟨r.nextId, ranking, service⟩] := by
  show (r.withRegistered kind _).registered kind = _
  rw [registered_withRegistered_self]
  exact Registration.insert_of_lt (h.below kind)

/-- … and nothing to the other kinds. -/
theorem registered_register_of_ne (r : ServiceRegistry) {kind other : Capability}
    (hne : other ≠ kind) (service : Shared kind.Service) (ranking : Int) :
    (r.register kind service ranking).registered other = r.registered other := by
  show (r.withRegistered kind _).registered other = _
  exact r.registered_withRegistered_of_ne hne _

/-- Since no id stands for registrations of two kinds, taking one away does the same to all kinds. -/
theorem registered_unregister {r : ServiceRegistry} (h : r.Orderly) (id : ServiceId)
    (kind : Capability) :
    (r.unregister id).2.registered kind = Registration.remove id (r.registered kind) := by
  rw [unregister]
  cases hfound : r.kindOf? id with
  | none =>
    have habsent : Registration.present id (r.registered kind) = false := by
      rw [Bool.eq_false_iff]
      intro hpresent
      exact kindOf?_eq_none_iff.1 hfound ⟨kind, hpresent⟩
    exact (Registration.remove_of_not_present habsent).symm
  | some found =>
    by_cases hkind : kind = found
    · subst hkind
      exact r.registered_withRegistered_self kind _
    · -- the search stopped at another kind, and by the invariant this one does not have the id
      have habsent := h.apart (Ne.symm hkind) id (present_of_kindOf? hfound)
      rw [Registration.remove_of_not_present habsent]
      exact r.registered_withRegistered_of_ne hkind _

/-- **One event.** Of every kind it takes away the registrations that it unregisters, and adds the one
    that it makes. -/
theorem registered_step {r : ServiceRegistry} (h : r.Orderly) (event : ServiceEvent)
    (kind : Capability) :
    (r.step event).registered kind
      = (r.registered kind).filter (fun x => !event.unregisters x.id)
        ++ event.registration r.nextId kind := by
  cases event with
  | register other service ranking =>
    have hkept : (r.registered kind).filter
        (fun x => !(ServiceEvent.register other service ranking).unregisters x.id)
        = r.registered kind :=
      List.filter_eq_self.2 fun _ _ => rfl
    rw [hkept, step]
    by_cases hkind : kind = other
    · subst hkind
      rw [ServiceEvent.registration_self, registered_register_self h]
    · rw [ServiceEvent.registration_of_ne _ hkind, List.append_nil]
      exact r.registered_register_of_ne hkind service _
  | unregister id =>
    rw [ServiceEvent.registration_unregister, List.append_nil, step, registered_unregister h]
    refine List.filter_congr fun x _ => ?_
    simp [ServiceEvent.unregisters, eq_comm]

theorem next_unregister (r : ServiceRegistry) (id : ServiceId) :
    (r.unregister id).2.next = r.next := by
  rw [unregister]
  cases r.kindOf? id with
  | none => rfl
  | some kind => exact r.next_withRegistered kind _

/-- The counter goes up by one with every registration. -/
theorem next_step {r : ServiceRegistry} {event : ServiceEvent} {rest : List ServiceEvent}
    (hroom : r.Roomy (event :: rest)) :
    (r.step event).next.toNat = r.next.toNat + if event.isRegistration then 1 else 0 := by
  cases event with
  | register kind service ranking =>
    rw [Roomy, registrationCount_cons] at hroom
    simp only [ServiceEvent.isRegistration, if_true] at hroom
    show (r.next + 1).toNat = r.next.toNat + 1
    rw [UInt64.toNat_add]
    exact Nat.mod_eq_of_lt (by simp only [UInt64.toNat_one]; omega)
  | unregister id =>
    show (r.unregister id).2.next.toNat = r.next.toNat
    rw [next_unregister]

theorem next_le_step {r : ServiceRegistry} {event : ServiceEvent} {rest : List ServiceEvent}
    (hroom : r.Roomy (event :: rest)) : r.next ≤ (r.step event).next := by
  rw [UInt64.le_iff_toNat_le, next_step hroom]
  exact Nat.le_add_right _ _

theorem Roomy.step {r : ServiceRegistry} {event : ServiceEvent} {rest : List ServiceEvent}
    (hroom : r.Roomy (event :: rest)) : (r.step event).Roomy rest := by
  rw [Roomy, next_step hroom]
  rw [Roomy, registrationCount_cons] at hroom
  omega

/-- The id that an event hands out is the counter's. -/
theorem lt_step_of_registration {r : ServiceRegistry} {event : ServiceEvent}
    {rest : List ServiceEvent} (hroom : r.Roomy (event :: rest))
    (hregistration : event.isRegistration = true) : r.next < (r.step event).next := by
  rw [UInt64.lt_iff_toNat_lt, next_step hroom, if_pos hregistration]
  exact Nat.lt_succ_self _

/-- A registration after an event is an earlier one, or the one that the event makes. -/
theorem mem_registered_step {r : ServiceRegistry} (h : r.Orderly) {event : ServiceEvent}
    {kind : Capability} {x : Registration kind.Service}
    (hx : x ∈ (r.step event).registered kind) :
    x ∈ r.registered kind ∨ x ∈ event.registration r.nextId kind := by
  rw [registered_step h, List.mem_append] at hx
  exact hx.imp List.mem_of_mem_filter id

/-- An id in use is not the one that an event hands out. -/
theorem id_ne_of_mem_registration {r : ServiceRegistry} (h : r.Orderly) {event : ServiceEvent}
    {kind other : Capability} {x : Registration kind.Service} {y : Registration other.Service}
    (hx : x ∈ r.registered kind) (hy : y ∈ event.registration r.nextId other) : x.id ≠ y.id := by
  intro hid
  have hlt := h.below kind x hx
  rw [hid, ServiceEvent.id_of_mem_registration hy] at hlt
  exact UInt64.lt_irrefl _ hlt

/-- **The invariant is kept.** -/
theorem Orderly.step {r : ServiceRegistry} (h : r.Orderly) {event : ServiceEvent}
    {rest : List ServiceEvent} (hroom : r.Roomy (event :: rest)) : (r.step event).Orderly where
  ascending kind := by
    rw [registered_step h]
    refine List.pairwise_append.2 ⟨List.Pairwise.filter _ (h.ascending kind), ?_, ?_⟩
    · rcases event.registration_eq r.nextId kind with hnone | ⟨x, hone, -⟩
      · rw [hnone]
        exact List.Pairwise.nil
      · rw [hone]
        exact List.pairwise_singleton _ _
    · intro a ha b hb
      rw [ServiceEvent.id_of_mem_registration hb]
      exact h.below kind a (List.mem_of_mem_filter ha)
  below kind x hx := by
    rcases mem_registered_step h hx with hold | hnew
    · exact UInt64.lt_of_lt_of_le (h.below kind x hold) (next_le_step hroom)
    · rw [ServiceEvent.id_of_mem_registration hnew]
      exact lt_step_of_registration hroom (ServiceEvent.isRegistration_of_mem hnew)
  apart {kind other} hne id hpresent := by
    rw [Bool.eq_false_iff]
    intro hboth
    obtain ⟨x, hx, rfl⟩ := Registration.present_iff.1 hpresent
    obtain ⟨y, hy, hid⟩ := Registration.present_iff.1 hboth
    -- earlier ids are apart by hypothesis, the counter is above them, and an event makes one kind only
    rcases mem_registered_step h hx with hxold | hxnew
    · rcases mem_registered_step h hy with hyold | hynew
      · have habsent := h.apart hne x.id (Registration.present_iff.2 ⟨x, hxold, rfl⟩)
        rw [Registration.present_iff.2 ⟨y, hyold, hid⟩] at habsent
        cases habsent
      · exact id_ne_of_mem_registration h hxold hynew hid.symm
    · rcases mem_registered_step h hy with hyold | hynew
      · exact id_ne_of_mem_registration h hyold hxnew hid
      · exact hne (ServiceEvent.kind_of_mem_registration hxnew hynew)

/-! ## Whole runs -/

theorem after_append (r : ServiceRegistry) (first second : List ServiceEvent) :
    r.after (first ++ second) = (r.after first).after second :=
  List.foldl_append

theorem includeLinked_after (r : ServiceRegistry) (events : List ServiceEvent) :
    (r.after events).includeLinked = r.includeLinked := by
  induction events generalizing r with
  | nil => rfl
  | cons event rest ih =>
    refine (ih (r.step event)).trans ?_
    cases event with
    | register kind service ranking => exact r.includeLinked_withRegistered kind _
    | unregister id =>
      rw [step, unregister]
      cases r.kindOf? id with
      | none => rfl
      | some kind => exact r.includeLinked_withRegistered kind _

theorem next_after {r : ServiceRegistry} {events : List ServiceEvent} (hroom : r.Roomy events) :
    (r.after events).next.toNat = r.next.toNat + registrationCount events := by
  induction events generalizing r with
  | nil => rfl
  | cons event rest ih =>
    refine (ih hroom.step).trans ?_
    rw [next_step hroom, registrationCount_cons, Nat.add_comm (registrationCount rest),
      Nat.add_assoc]

/-- The invariant holds all along a run. -/
theorem Orderly.after {r : ServiceRegistry} (h : r.Orderly) {events : List ServiceEvent}
    (hroom : r.Roomy events) : (r.after events).Orderly := by
  induction events generalizing r with
  | nil => exact h
  | cons event rest ih => exact ih (h.step hroom) hroom.step

/-- The registrations of a kind that are made in the course of some events and not taken away by a
    later one. -/
def standing (r : ServiceRegistry) (kind : Capability) :
    List ServiceEvent → List (Registration kind.Service)
  | [] => []
  | event :: rest =>
    (event.registration r.nextId kind).filter (fun x => !rest.any fun e => e.unregisters x.id)
      ++ (r.step event).standing kind rest

/-- **A run.** Of every kind, the earlier registrations that no event unregisters are still there,
    followed by those made in the run that stand. -/
theorem registered_after {r : ServiceRegistry} (h : r.Orderly) {events : List ServiceEvent}
    (hroom : r.Roomy events) (kind : Capability) :
    (r.after events).registered kind
      = (r.registered kind).filter (fun x => !events.any fun e => e.unregisters x.id)
        ++ r.standing kind events := by
  induction events generalizing r with
  | nil =>
    have hkept : (r.registered kind).filter
        (fun x => !([] : List ServiceEvent).any fun e => e.unregisters x.id)
        = r.registered kind :=
      List.filter_eq_self.2 fun _ _ => rfl
    rw [hkept, standing, List.append_nil]
    rfl
  | cons event rest ih =>
    show ((r.step event).after rest).registered kind = _
    rw [ih (h.step hroom) hroom.step, registered_step h, List.filter_append, List.filter_filter,
      List.append_assoc, standing]
    congr 1
    -- of the earlier registrations those are left that neither this event nor a later one unregisters
    refine List.filter_congr fun x _ => ?_
    rw [List.any_cons, Bool.not_or, Bool.and_comm]

end ServiceRegistry

end UnitBinding
