import UnitBinding.Proofs.Services.Registration
import UnitBinding.Proofs.Services.Run
import UnitBinding.Proofs.Settings.Composition

set_option autoImplicit false

/-! # Programs that compose settings

In a program services are registered and taken away, settings are composed and copied, and at any time
the maps of the registry may be enumerated in another order: `SettingsStore.after`. Two facts hold all
along (`SettingsStore.Sound`). No id occurs twice in a map, so that the order of discovery does not
depend on the enumeration, and the counter for instances is beyond all that are registered. An event
touches one kind of contributions at most, and the others keep their registrations
(`perm_registered_of_untouched`); settings that are kept stay what they are until others are kept under
their name (`get?_kept_holders_after`). -/

namespace UnitBinding

/-! ## Maps with distinct ids -/

namespace Registration

variable {α : Type}

/-- No id occurs twice. -/
def Distinct (registrations : List (Registration α)) : Prop :=
  registrations.Pairwise fun a b => a.id ≠ b.id

theorem Distinct.remove {registrations : List (Registration α)} (h : Distinct registrations)
    (id : ServiceId) : Distinct (Registration.remove id registrations) :=
  List.Pairwise.filter _ h

theorem Distinct.insert {registrations : List (Registration α)} (h : Distinct registrations)
    (r : Registration α) : Distinct (Registration.insert r registrations) := by
  refine List.pairwise_append.2 ⟨h.remove r.id, List.pairwise_singleton _ _, ?_⟩
  intro a ha b hb
  rw [List.mem_singleton.1 hb]
  exact (mem_remove.1 ha).2

theorem Distinct.perm {registrations enumerated : List (Registration α)}
    (h : Distinct registrations) (hperm : enumerated.Perm registrations) : Distinct enumerated :=
  hperm.symm.pairwise h fun hne => Ne.symm hne

/-- The order of discovery does not depend on the enumeration. -/
theorem Distinct.ranked_eq {registrations enumerated : List (Registration α)}
    (h : Distinct registrations) (hperm : enumerated.Perm registrations) :
    ranked enumerated = ranked registrations := by
  have hsorted : (ranked enumerated).Perm (ranked registrations) :=
    ((List.mergeSort_perm _ _).trans hperm).trans (List.mergeSort_perm _ _).symm
  refine List.Perm.eq_of_pairwise ?_ (pairwise_ranked enumerated) (pairwise_ranked registrations)
    hsorted
  intro a b ha hb hab hba
  rw [precedes_iff] at hab hba
  have hindex : a.id.index.toNat = b.id.index.toNat := by omega
  have hid : a.id = b.id := congrArg ServiceId.mk (UInt64.toNat_inj.1 hindex)
  have hamem : a ∈ registrations :=
    ((List.mergeSort_perm _ _).trans hperm).mem_iff.1 ha
  have hbmem : b ∈ registrations := (List.mergeSort_perm _ _).mem_iff.1 hb
  exact List.inj_on_of_nodup_map (List.pairwise_map.2 h) hamem hbmem hid

end Registration

/-! ## One kind at a time -/

namespace ServiceRegistry

/-- Whether an event registers a service of a kind, or takes one away. -/
def touches (r : ServiceRegistry) (kind : Capability) : ServiceEvent → Bool
  | .register made _ _ => made = kind
  | .unregister id => r.kindOf? id = some kind

/-- Other kinds stay what they are. -/
theorem registered_step_of_not_touches {r : ServiceRegistry} {kind : Capability}
    {event : ServiceEvent} (h : r.touches kind event = false) :
    (r.step event).registered kind = r.registered kind := by
  cases event with
  | register made service ranking =>
    exact r.registered_register_of_ne (Ne.symm (of_decide_eq_false h)) service _
  | unregister id =>
    have hother : r.kindOf? id ≠ some kind := of_decide_eq_false h
    show (r.unregister id).2.registered kind = _
    rw [unregister]
    cases hfound : r.kindOf? id with
    | none => rfl
    | some found =>
      refine r.registered_withRegistered_of_ne ?_ _
      rintro rfl
      exact hother hfound

/-- An event touches one kind at most. -/
theorem eq_of_touches {r : ServiceRegistry} {kind other : Capability} {event : ServiceEvent}
    (h : r.touches kind event = true) (hother : r.touches other event = true) : kind = other := by
  cases event with
  | register made service ranking =>
    exact (of_decide_eq_true h).symm.trans (of_decide_eq_true hother)
  | unregister id =>
    exact Option.some.inj ((of_decide_eq_true h).symm.trans (of_decide_eq_true hother))

/-- What an event leaves of a kind: the same, one less, or one more in its place. -/
theorem registered_step_cases (r : ServiceRegistry) (kind : Capability) (event : ServiceEvent) :
    (r.step event).registered kind = r.registered kind
      ∨ (∃ id, (r.step event).registered kind = Registration.remove id (r.registered kind))
      ∨ ∃ service ranking, event = .register kind service ranking
        ∧ (r.step event).registered kind = Registration.insert
          ⟨r.nextId, ranking.getD defaultRanking, service⟩ (r.registered kind) := by
  cases htouched : r.touches kind event with
  | false => exact Or.inl (registered_step_of_not_touches htouched)
  | true =>
    cases event with
    | register made service ranking =>
      obtain rfl : made = kind := of_decide_eq_true htouched
      exact Or.inr (Or.inr ⟨service, ranking, rfl, r.registered_withRegistered_self made _⟩)
    | unregister id =>
      have hfound : r.kindOf? id = some kind := of_decide_eq_true htouched
      refine Or.inr (Or.inl ⟨id, ?_⟩)
      show (r.unregister id).2.registered kind = _
      rw [unregister, hfound]
      exact r.registered_withRegistered_self kind _

theorem includeLinked_step (r : ServiceRegistry) (event : ServiceEvent) :
    (r.step event).includeLinked = r.includeLinked :=
  r.includeLinked_after [event]

end ServiceRegistry

/-! ## Programs -/

/-- An order in which the maps of a registry may be enumerated. -/
structure Enumeration where
  order : (kind : Capability) → List (Registration kind.Service) → List (Registration kind.Service)
  perm : ∀ kind registrations, (order kind registrations).Perm registrations

/-- The registry with its maps enumerated in some order. -/
def ServiceRegistry.enumerated (r : ServiceRegistry) (e : Enumeration) : ServiceRegistry :=
  { r with
    integrators := e.order .integrator r.integrators
    strategies := e.order .strategy r.strategies
    contributors := e.order .contributor r.contributors }

theorem ServiceRegistry.registered_enumerated (r : ServiceRegistry) (e : Enumeration)
    (kind : Capability) : (r.enumerated e).registered kind = e.order kind (r.registered kind) := by
  cases kind <;> rfl

/-- What can happen in a program with a registry and settings under names. -/
inductive StoreEvent where
  /-- A service is registered, or an attempt is made to take one away. -/
  | service (event : ServiceEvent)
  /-- From now on the maps are enumerated in another order. -/
  | enumerate (e : Enumeration)
  /-- A provider composes settings from those that a caller passes, and the result is kept. -/
  | compose (p : Provider) (caller : Option String) (result : String)
  /-- A copy of some settings is kept under another name. -/
  | copy (source target : String)
  /-- A caller's own settings are kept. -/
  | keep (name : String) (settings : Settings)

/-- Whether an event keeps settings under a name. -/
def StoreEvent.writes (name : String) : StoreEvent → Bool
  | .service _ | .enumerate _ => false
  | .compose _ _ result => result = name
  | .copy _ target => target = name
  | .keep kept _ => kept = name

/-- The names under which settings or copies of them are kept after an event, from those before it. -/
def StoreEvent.holders (names : List String) (event : StoreEvent) : List String :=
  let spared := names.filter fun name => !event.writes name
  match event with
  | .copy source target => if source ∈ names then target :: spared else spared
  | .service _ | .enumerate _ | .compose .. | .keep .. => spared

/-- The serials beyond the instance that is registered, if one is. It is one that exists already, or one
    that was made for it. -/
def ServiceEvent.beyond : ServiceEvent → Nat
  | .register _ service _ => service.serial + 1
  | .unregister _ => 0

namespace SettingsStore

variable {ω : Type}

/-- A program that starts. -/
def new (includeLinked : Bool) (linked : LinkedContributions) : SettingsStore ω :=
  { host := { services := ServiceRegistry.new includeLinked, linked, next := 0 } }

/-- The program with another registry, and with the counter for instances no less than some number. -/
def withServices (store : SettingsStore ω) (services : ServiceRegistry) (next : Nat) :
    SettingsStore ω :=
  { store with host := { store.host with services, next := max store.host.next next } }

/-- The program after an event. -/
def step (store : SettingsStore ω) : StoreEvent → SettingsStore ω
  | .service event => store.withServices (store.host.services.step event) event.beyond
  | .enumerate e => store.withServices (store.host.services.enumerated e) 0
  | .compose p caller result => store.compose p caller result
  | .copy source target =>
    match store.kept.get? source with
    | none => store
    | some settings => { store with kept := store.kept.set target settings }
  | .keep name settings => { store with kept := store.kept.set name settings }

/-- The program after some events. -/
def after (store : SettingsStore ω) (events : List StoreEvent) : SettingsStore ω :=
  events.foldl step store

/-- Whether in the course of some events no service of a kind is registered or taken away. -/
def untouched (kind : Capability) : SettingsStore ω → List StoreEvent → Bool
  | _, [] => true
  | store, event :: rest =>
    (match event with
      | .service event => !store.host.services.touches kind event
      | .enumerate _ | .compose .. | .copy .. | .keep .. => true)
      && untouched kind (store.step event) rest

/-! ## What holds all along -/

/-- Ids are distinct, and the counter for instances is beyond those that are registered. -/
structure Sound (store : SettingsStore ω) : Prop where
  distinct : ∀ kind, Registration.Distinct (store.host.services.registered kind)
  known : ∀ kind, ∀ r ∈ store.host.services.registered kind, r.service.serial < store.host.next

theorem sound_new (includeLinked : Bool) (linked : LinkedContributions) :
    (new includeLinked linked : SettingsStore ω).Sound where
  distinct kind := by cases kind <;> exact List.Pairwise.nil
  known kind r hr := by cases kind <;> cases hr

/-- Asking for contributions moves the counter on by as many as are linked. -/
theorem next_all (host : Host ω) : (Host.discovery.all host).2.next
    = host.next + host.linked.integrators.length + host.linked.strategies.length
      + host.linked.contributors.length := rfl

theorem next_le_step (store : SettingsStore ω) (event : StoreEvent) :
    store.host.next ≤ (store.step event).host.next := by
  cases event with
  | service event => exact Nat.le_max_left _ _
  | enumerate e => exact Nat.le_max_left _ _
  | compose p caller result =>
    show _ ≤ (Host.discovery.all store.host).2.next
    rw [next_all]
    omega
  | copy source target =>
    rw [step]
    split <;> exact Nat.le_refl _
  | keep name settings => exact Nat.le_refl _

theorem next_le_after (store : SettingsStore ω) (events : List StoreEvent) :
    store.host.next ≤ (store.after events).host.next := by
  induction events generalizing store with
  | nil => exact Nat.le_refl _
  | cons event rest ih => exact Nat.le_trans (store.next_le_step event) (ih (store.step event))

/-- Of all events only two kinds change the registry. -/
theorem services_step (store : SettingsStore ω) (event : StoreEvent) :
    (store.step event).host.services = match event with
      | .service event => store.host.services.step event
      | .enumerate e => store.host.services.enumerated e
      | .compose .. | .copy .. | .keep .. => store.host.services := by
  cases event with
  | copy source target =>
    rw [step]
    split <;> rfl
  | service event => rfl
  | enumerate e => rfl
  | compose p caller result => rfl
  | keep name settings => rfl

/-- What is linked, and whether that is reported, stays what it is. -/
theorem linked_step (store : SettingsStore ω) (event : StoreEvent) :
    (store.step event).host.linked = store.host.linked
      ∧ (store.step event).host.services.includeLinked = store.host.services.includeLinked := by
  rw [services_step]
  cases event with
  | service event => exact ⟨rfl, store.host.services.includeLinked_step event⟩
  | copy source target =>
    refine ⟨?_, rfl⟩
    rw [step]
    split <;> rfl
  | enumerate e => exact ⟨rfl, rfl⟩
  | compose p caller result => exact ⟨rfl, rfl⟩
  | keep name settings => exact ⟨rfl, rfl⟩

theorem linked_after (store : SettingsStore ω) (events : List StoreEvent) :
    (store.after events).host.linked = store.host.linked
      ∧ (store.after events).host.services.includeLinked = store.host.services.includeLinked := by
  induction events generalizing store with
  | nil => exact ⟨rfl, rfl⟩
  | cons event rest ih =>
    obtain ⟨hlinked, hreported⟩ := ih (store.step event)
    obtain ⟨hlinkedStep, hreportedStep⟩ := store.linked_step event
    exact ⟨hlinked.trans hlinkedStep, hreported.trans hreportedStep⟩

/-- A registry may change as long as its ids are distinct and the counter is beyond what it holds. -/
theorem Sound.of_services {store later : SettingsStore ω} (h : store.Sound)
    (hnext : store.host.next ≤ later.host.next)
    (hservices : later.host.services = store.host.services) : later.Sound where
  distinct kind := by
    rw [hservices]
    exact h.distinct kind
  known kind r hr := by
    rw [hservices] at hr
    exact Nat.lt_of_lt_of_le (h.known kind r hr) hnext

theorem Sound.service {store : SettingsStore ω} (h : store.Sound) (event : ServiceEvent) :
    (store.step (.service event)).Sound where
  distinct kind := by
    show Registration.Distinct ((store.host.services.step event).registered kind)
    rcases store.host.services.registered_step_cases kind event with
      hsame | ⟨id, hless⟩ | ⟨service, ranking, -, hmore⟩
    · rw [hsame]
      exact h.distinct kind
    · rw [hless]
      exact (h.distinct kind).remove id
    · rw [hmore]
      exact (h.distinct kind).insert _
  known kind r hr := by
    have hold : r ∈ store.host.services.registered kind →
        r.service.serial < (store.step (.service event)).host.next := fun hmem =>
      Nat.lt_of_lt_of_le (h.known kind r hmem) (store.next_le_step _)
    rcases store.host.services.registered_step_cases kind event with
      hsame | ⟨id, hless⟩ | ⟨service, ranking, rfl, hmore⟩
    · exact hold (hsame ▸ hr)
    · have hmem : r ∈ Registration.remove id (store.host.services.registered kind) := hless ▸ hr
      exact hold (Registration.mem_remove.1 hmem).1
    · have hmem : r ∈ Registration.insert _ (store.host.services.registered kind) := hmore ▸ hr
      rcases List.mem_append.1 hmem with hmem | hmem
      · exact hold (Registration.mem_remove.1 hmem).1
      · -- the counter was moved beyond the instance that is registered
        rw [List.mem_singleton.1 hmem]
        exact Nat.lt_of_lt_of_le (Nat.lt_succ_self service.serial) (Nat.le_max_right _ _)

theorem Sound.enumerate {store : SettingsStore ω} (h : store.Sound) (e : Enumeration) :
    (store.step (.enumerate e)).Sound where
  distinct kind := by
    show Registration.Distinct ((store.host.services.enumerated e).registered kind)
    rw [ServiceRegistry.registered_enumerated]
    exact (h.distinct kind).perm (e.perm kind _)
  known kind r hr := by
    have hmem : r ∈ (store.host.services.enumerated e).registered kind := hr
    rw [ServiceRegistry.registered_enumerated] at hmem
    exact Nat.lt_of_lt_of_le (h.known kind r ((e.perm kind _).mem_iff.1 hmem))
      (store.next_le_step _)

theorem Sound.step {store : SettingsStore ω} (h : store.Sound) (event : StoreEvent) :
    (store.step event).Sound := by
  cases event with
  | service event => exact h.service event
  | enumerate e => exact h.enumerate e
  | compose p caller result => exact h.of_services (store.next_le_step _) (store.services_step _)
  | copy source target => exact h.of_services (store.next_le_step _) (store.services_step _)
  | keep name settings => exact h.of_services (store.next_le_step _) (store.services_step _)

theorem Sound.after {store : SettingsStore ω} (h : store.Sound) (events : List StoreEvent) :
    (store.after events).Sound := by
  induction events generalizing store with
  | nil => exact h
  | cons event rest ih => exact ih (h.step event)

/-- **An untouched kind** keeps its registrations, in whatever order they are enumerated. -/
theorem perm_registered_of_untouched {store : SettingsStore ω} {kind : Capability}
    {events : List StoreEvent} (h : store.untouched kind events = true) :
    ((store.after events).host.services.registered kind).Perm
      (store.host.services.registered kind) := by
  induction events generalizing store with
  | nil => exact List.Perm.refl _
  | cons event rest ih =>
    obtain ⟨hnow, hrest⟩ := Bool.and_eq_true_iff.1 h
    refine (ih hrest).trans ?_
    rw [services_step]
    cases event with
    | service event =>
      have hspared : store.host.services.touches kind event = false := by simpa using hnow
      exact List.Perm.of_eq (ServiceRegistry.registered_step_of_not_touches hspared)
    | enumerate e =>
      show ((store.host.services.enumerated e).registered kind).Perm _
      rw [ServiceRegistry.registered_enumerated]
      exact e.perm kind _
    | compose p caller result => exact List.Perm.refl _
    | copy source target => exact List.Perm.refl _
    | keep name settings => exact List.Perm.refl _

/-! ## Settings that are kept -/

/-- Kept settings stay what they are until others are kept under their name. -/
theorem get?_kept_step {store : SettingsStore ω} {name : String} {event : StoreEvent}
    (h : event.writes name = false) : (store.step event).kept.get? name = store.kept.get? name := by
  cases event with
  | service event => rfl
  | enumerate e => rfl
  | compose p caller result =>
    exact Table.get?_set_of_ne _ _ _ _ (Ne.symm (of_decide_eq_false h))
  | copy source target =>
    rw [step]
    split
    · rfl
    · exact Table.get?_set_of_ne _ _ _ _ (Ne.symm (of_decide_eq_false h))
  | keep kept settings => exact Table.get?_set_of_ne _ _ _ _ (Ne.symm (of_decide_eq_false h))

/-- Settings and their copies stay what they are, wherever they are kept. -/
theorem get?_kept_holders_step {store : SettingsStore ω} {settings : Settings} {names : List String}
    (h : ∀ name ∈ names, store.kept.get? name = some settings) (event : StoreEvent) :
    ∀ name ∈ StoreEvent.holders names event, (store.step event).kept.get? name = some settings := by
  have hspared : ∀ name ∈ names.filter (fun name => !event.writes name),
      (store.step event).kept.get? name = some settings := by
    intro name hname
    obtain ⟨hmem, hwrites⟩ := List.mem_filter.1 hname
    rw [get?_kept_step (by simpa using hwrites)]
    exact h name hmem
  intro name hname
  cases event with
  | copy source target =>
    rw [StoreEvent.holders] at hname
    split at hname
    · rename_i hsource
      rcases List.mem_cons.1 hname with rfl | hname
      · rw [step, h source hsource]
        exact Table.get?_set_self _ _ _
      · exact hspared name hname
    · exact hspared name hname
  | service event => exact hspared name hname
  | enumerate e => exact hspared name hname
  | compose p caller result => exact hspared name hname
  | keep kept other => exact hspared name hname

theorem get?_kept_holders_after {store : SettingsStore ω} {settings : Settings} {names : List String}
    (h : ∀ name ∈ names, store.kept.get? name = some settings) (events : List StoreEvent) :
    ∀ name ∈ events.foldl StoreEvent.holders names,
      (store.after events).kept.get? name = some settings := by
  induction events generalizing store names with
  | nil => exact h
  | cons event rest ih => exact ih (get?_kept_holders_step h event)

end SettingsStore

end UnitBinding
