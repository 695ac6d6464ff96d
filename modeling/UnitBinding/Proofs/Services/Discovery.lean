import UnitBinding.Proofs.Services.Run

set_option autoImplicit false

/-! # What a registry discovers

A registry keeps maps from ids to services and sorts what it finds in them by ranking and id. Callers see
no ids: what they get is the registrations of a kind that stand, by descending ranking and otherwise in
the order in which they were made, whatever order the maps were enumerated in, and the linked services
behind. Since ids only ever grow, it does not matter which of them went to registrations of other kinds
(`standing_shifted`). -/

namespace UnitBinding

/-- Two registries with the same contents, their maps enumerated in some order. -/
structure ServiceRegistry.SameContents (r enumerated : ServiceRegistry) : Prop where
  includeLinked : enumerated.includeLinked = r.includeLinked
  registered : ∀ kind, (enumerated.registered kind).Perm (r.registered kind)

/-- An event with the ids from one on moved up by one, as another registration moves them that takes
    that id. -/
def ServiceEvent.shifted (fresh : ServiceId) : ServiceEvent → ServiceEvent
  | .register kind service ranking => .register kind service ranking
  | .unregister id =>
    .unregister (if fresh.index ≤ id.index then ⟨id.index + 1⟩ else id)

namespace ServiceRegistry

/-! ## Standing registrations -/

/-- Registrations stand after a run if they were made in it, or stood before and are not
    unregistered in it. -/
theorem standing_append (r : ServiceRegistry) (kind : Capability)
    (first second : List ServiceEvent) :
    r.standing kind (first ++ second)
      = (r.standing kind first).filter (fun x => !second.any fun e => e.unregisters x.id)
        ++ (r.after first).standing kind second := by
  induction first generalizing r with
  | nil => rfl
  | cons event rest ih =>
    rw [List.cons_append, standing, standing, ih, List.filter_append, List.filter_filter,
      List.append_assoc]
    congr 1
    refine List.filter_congr fun x _ => ?_
    rw [List.any_append, Bool.not_or, Bool.and_comm]

theorem registered_after_new {includeLinked : Bool} {events : List ServiceEvent}
    (hroom : (new includeLinked).Roomy events) (kind : Capability) :
    ((new includeLinked).after events).registered kind
      = (new includeLinked).standing kind events := by
  have hnone : (new includeLinked).registered kind = [] := by cases kind <;> rfl
  rw [registered_after (orderly_new includeLinked) hroom, hnone]
  rfl

/-- The ids of standing registrations come from the counter. -/
theorem next_le_of_mem_standing {r : ServiceRegistry} {events : List ServiceEvent}
    (hroom : r.Roomy events) {kind : Capability} {x : Registration kind.Service}
    (hx : x ∈ r.standing kind events) : r.next ≤ x.id.index := by
  induction events generalizing r with
  | nil => cases hx
  | cons event rest ih =>
    rw [standing, List.mem_append] at hx
    rcases hx with hnow | hlater
    · rw [ServiceEvent.id_of_mem_registration (List.mem_of_mem_filter hnow)]
      exact UInt64.le_refl _
    · exact UInt64.le_trans (next_le_step hroom) (ih hroom.step hlater)

/-! ## Ids moved up -/

theorem unregisters_shifted_of_le {fresh id : ServiceId} (hle : fresh.index ≤ id.index)
    (hroom : id.index.toNat + 1 < 2 ^ 64) (event : ServiceEvent) :
    (event.shifted fresh).unregisters ⟨id.index + 1⟩ = event.unregisters id := by
  cases event with
  | register kind service ranking => rfl
  | unregister taken =>
    refine decide_eq_decide.2 ?_
    split
    · rw [ServiceId.mk.injEq, UInt64.add_left_inj]
      exact ⟨congrArg ServiceId.mk, congrArg ServiceId.index⟩
    · rename_i hlt
      refine iff_of_false ?_ ?_
      · rintro rfl
        rw [UInt64.le_iff_toNat_le, UInt64.toNat_add, UInt64.toNat_one] at hlt
        rw [UInt64.le_iff_toNat_le] at hle
        omega
      · rintro rfl
        exact hlt hle

theorem unregisters_shifted_of_lt {fresh id : ServiceId} (hlt : id.index < fresh.index)
    (hpos : 1 ≤ id.index) (event : ServiceEvent) :
    (event.shifted fresh).unregisters id = event.unregisters id := by
  cases event with
  | register kind service ranking => rfl
  | unregister taken =>
    refine decide_eq_decide.2 ?_
    split
    · rename_i hle
      refine iff_of_false ?_ ?_
      · -- moved up from the greatest number it would be zero, which is below every id
        rintro rfl
        have hbound := taken.index.toNat_lt
        rw [UInt64.le_iff_toNat_le] at hle hpos
        rw [UInt64.lt_iff_toNat_lt] at hlt
        simp only [UInt64.toNat_add, UInt64.toNat_one] at hlt hpos
        omega
      · rintro rfl
        exact UInt64.lt_irrefl _ (UInt64.lt_of_lt_of_le hlt hle)
    · exact Iff.rfl

theorem registrationCount_map_shifted (fresh : ServiceId) (events : List ServiceEvent) :
    registrationCount (events.map (ServiceEvent.shifted fresh)) = registrationCount events := by
  rw [registrationCount, List.countP_map]
  refine List.countP_congr fun event _ => ?_
  cases event <;> rfl

/-- An event with ids moved up makes the same registrations, under whatever id. -/
theorem registration_shifted (fresh id other : ServiceId) (kind : Capability)
    (event : ServiceEvent) :
    (event.shifted fresh).registration other kind
      = (event.registration id kind).map fun x => ⟨other, x.ranking, x.service⟩ := by
  cases event with
  | register made service ranking => cases kind <;> cases made <;> rfl
  | unregister taken =>
    rw [ServiceEvent.registration_unregister, ServiceEvent.shifted,
      ServiceEvent.registration_unregister]
    rfl

theorem next_step_shifted {r ahead : ServiceRegistry} (hahead : ahead.next = r.next + 1)
    (fresh : ServiceId) (event : ServiceEvent) :
    (ahead.step (event.shifted fresh)).next = (r.step event).next + 1 := by
  cases event with
  | register kind service ranking => exact congrArg (· + 1) hahead
  | unregister id =>
    show (ahead.unregister _).2.next = (r.unregister id).2.next + 1
    rw [next_unregister, next_unregister, hahead]

/-- **Which ids are handed out does not matter.** One of two registries is ahead by an id. After the same
    events, for the one ahead with the ids moved up, both offer the same. -/
theorem standing_shifted {r ahead : ServiceRegistry} {fresh : ServiceId}
    (hfresh : fresh.index ≤ r.next) (hahead : ahead.next = r.next + 1)
    {events : List ServiceEvent} (hroom : r.next.toNat + registrationCount events + 1 < 2 ^ 64)
    (kind : Capability) :
    (ahead.standing kind (events.map (ServiceEvent.shifted fresh))).map Registration.offer
      = (r.standing kind events).map Registration.offer := by
  induction events generalizing r ahead with
  | nil => rfl
  | cons event rest ih =>
    have hroomy : r.Roomy (event :: rest) := Nat.lt_of_succ_lt hroom
    have hrest : (r.step event).next.toNat + registrationCount rest + 1 < 2 ^ 64 := by
      rw [registrationCount_cons] at hroom
      rw [next_step hroomy]
      omega
    -- the two ids that the event hands out are unregistered by the same later events
    have hkept : (rest.map (ServiceEvent.shifted fresh)).any (fun e => e.unregisters ahead.nextId)
        = rest.any fun e => e.unregisters r.nextId := by
      have hspace : r.nextId.index.toNat + 1 < 2 ^ 64 := by
        simp only [nextId]
        omega
      rw [List.any_map]
      congr 1
      funext e
      rw [nextId, hahead]
      exact unregisters_shifted_of_le hfresh hspace e
    have hnow : (((event.shifted fresh).registration ahead.nextId kind).filter fun x =>
          !(rest.map (ServiceEvent.shifted fresh)).any fun e => e.unregisters x.id).map
          Registration.offer
        = ((event.registration r.nextId kind).filter fun x =>
          !rest.any fun e => e.unregisters x.id).map Registration.offer := by
      rw [registration_shifted fresh r.nextId, List.filter_map, List.map_map]
      refine congrArg (List.map Registration.offer) (List.filter_congr fun x hx => ?_)
      rw [ServiceEvent.id_of_mem_registration hx]
      exact congrArg Bool.not hkept
    rw [List.map_cons, standing, standing, List.map_append, List.map_append, hnow,
      ih (UInt64.le_trans hfresh (next_le_step hroomy)) (next_step_shifted hahead fresh event) hrest]

/-! ## Discovery -/

/-- What is discovered are the registrations that stand, in their order, and the linked services. -/
theorem discoverOf_after {includeLinked : Bool} {events : List ServiceEvent}
    (hroom : (new includeLinked).Roomy events) {enumerated : ServiceRegistry}
    (hsame : ((new includeLinked).after events).SameContents enumerated) (kind : Capability)
    (linked : LinkedContributions) (serial : Nat) :
    ∃ found, Registration.RankedOrder ((new includeLinked).standing kind events) found
      ∧ enumerated.discoverOf kind linked serial = found.map (·.service)
        ++ if includeLinked then linkedInstances serial (linked.of kind) else [] := by
  have hperm := hsame.registered kind
  have hascending := ((orderly_new includeLinked).after hroom).ascending kind
  rw [registered_after_new hroom] at hperm hascending
  refine ⟨Registration.ranked (enumerated.registered kind),
    Registration.rankedOrder_ranked hascending hperm, ?_⟩
  rw [discoverOf, hsame.includeLinked, includeLinked_after]
  rfl

/-- Two runs after which the same is on offer give the same discovery. -/
theorem discoverOf_eq {includeLinked : Bool} {first second : List ServiceEvent}
    (hfirst : (new includeLinked).Roomy first) (hsecond : (new includeLinked).Roomy second)
    {r s : ServiceRegistry} (hr : ((new includeLinked).after first).SameContents r)
    (hs : ((new includeLinked).after second).SameContents s) {kind : Capability}
    (hoffers : ((new includeLinked).standing kind first).map Registration.offer
      = ((new includeLinked).standing kind second).map Registration.offer)
    (linked : LinkedContributions) (serial : Nat) :
    r.discoverOf kind linked serial = s.discoverOf kind linked serial := by
  obtain ⟨found, hfound, hdiscovered⟩ := discoverOf_after hfirst hr kind linked serial
  obtain ⟨others, hothers, hdiscover⟩ := discoverOf_after hsecond hs kind linked serial
  have hservices := congrArg (List.map Prod.snd) (hfound.offers_eq hothers hoffers)
  rw [List.map_map, List.map_map] at hservices
  rw [hdiscovered, hdiscover]
  exact congrArg (· ++ _) hservices

/-- Another registration, of another kind, changes the ids of later ones and nothing else. -/
theorem standing_insert {includeLinked : Bool} {first rest : List ServiceEvent}
    (hroom : (new includeLinked).next.toNat + registrationCount (first ++ rest) + 1 < 2 ^ 64)
    {kind other : Capability} (hne : other ≠ kind) (service : Shared other.Service)
    (ranking : Option Int) :
    let fresh := ((new includeLinked).after first).nextId
    ((new includeLinked).standing kind
        (first ++ .register other service ranking :: rest.map (ServiceEvent.shifted fresh))).map
        Registration.offer
      = ((new includeLinked).standing kind (first ++ rest)).map Registration.offer := by
  intro fresh
  rw [registrationCount_append] at hroom
  have hfirst : (new includeLinked).Roomy first := by
    rw [Roomy]
    omega
  have hnext := next_after hfirst
  rw [standing_append, standing_append, List.map_append, List.map_append]
  congr 1
  · -- what was registered before has ids that are not moved
    refine congrArg (List.map Registration.offer) (List.filter_congr fun x hx => ?_)
    have hpos := next_le_of_mem_standing hfirst hx
    rw [← registered_after_new hfirst] at hx
    have hlt : x.id.index < fresh.index :=
      ((orderly_new includeLinked).after hfirst).below kind x hx
    rw [List.any_cons, ServiceEvent.unregisters, Bool.false_or, List.any_map]
    congr 2
    funext e
    exact unregisters_shifted_of_lt hlt hpos e
  · rw [standing, ServiceEvent.registration_of_ne _ hne.symm]
    refine standing_shifted (UInt64.le_refl _) rfl ?_ kind
    omega

/-- **Discovery is ranked.** Take any run of a new registry with fewer than 2^64 - 1 registrations of all
    kinds, and whatever attempts to take some away; enumerate its maps in any order. What is discovered
    of a kind are the services of the registrations of that kind that stand, each registration once, by
    descending ranking and within a ranking in the order of registration. Behind them come instances of
    the linked contributions of the kind in link order, if the registry includes them, and nothing
    else. A registration of another kind, wherever it is put into the run, only moves the ids that are
    handed out later, and changes nothing in what is discovered. -/
theorem discovery_is_ranked (includeLinked : Bool) (events : List ServiceEvent)
    (h : registrationCount events < 2 ^ 64 - 1) (kind : Capability)
    (linked : LinkedContributions) (serial : Nat) :
    let start := new includeLinked
    (∀ enumerated, (start.after events).SameContents enumerated →
      ∃ found behind, enumerated.discoverOf kind linked serial
          = found.map (·.service) ++ behind
        ∧ Registration.RankedOrder (start.standing kind events) found
        ∧ behind.map (·.value)
          = if includeLinked then (linked.of kind).map (·.contribution) else [])
      ∧ ∀ first rest (other : Capability) (service : Shared other.Service) ranking,
        events = first ++ rest → other ≠ kind → registrationCount events + 1 < 2 ^ 64 - 1 →
        let fresh := (start.after first).nextId
        let longer := first ++ .register other service ranking
          :: rest.map (ServiceEvent.shifted fresh)
        ∀ enumerated others, (start.after events).SameContents enumerated →
          (start.after longer).SameContents others →
          others.discoverOf kind linked serial = enumerated.discoverOf kind linked serial := by
  intro start
  have hroom : start.Roomy events := roomy_new includeLinked h
  constructor
  · intro enumerated hsame
    obtain ⟨found, hfound, hdiscovered⟩ := discoverOf_after hroom hsame kind linked serial
    refine ⟨found, _, hdiscovered, hfound, ?_⟩
    cases includeLinked with
    | true => exact Shared.map_value_numbered serial _
    | false => rfl
  · rintro first rest other service ranking rfl hne hspace fresh longer enumerated others hsame
      hothers
    have hcount : registrationCount longer = registrationCount (first ++ rest) + 1 := by
      rw [registrationCount_append, registrationCount_append, registrationCount_cons,
        registrationCount_map_shifted]
      rfl
    have hlonger : start.Roomy longer := roomy_new includeLinked (hcount ▸ hspace)
    refine discoverOf_eq hlonger hroom hothers hsame ?_ linked serial
    rw [Roomy, hcount] at hlonger
    exact standing_insert hlonger hne service ranking

/-- Integrators of three rankings, one of which is taken away, and one registered twice. -/
def rankedRun : List ServiceEvent :=
  [.register .integrator ⟨1, ⟨"audit", none⟩⟩ none,
    .register .integrator ⟨2, ⟨"search", none⟩⟩ (some 5),
    .register .integrator ⟨3, ⟨"metrics", none⟩⟩ (some (-7)),
    .unregister ⟨3⟩, .register .integrator ⟨1, ⟨"audit", none⟩⟩ (some 5)]

/-- The integrators are discovered by ranking, also if a strategy is registered before them all. -/
theorem discovery_is_ranked_strategy_first :
    registrationCount rankedRun < 2 ^ 64 - 1
      ∧ (((new true).after rankedRun).discoverOf .integrator {} 9).map (·.serial) = [2, 1, 1]
      ∧ ((((new true).register .strategy ⟨4, ⟨[]⟩⟩ 0).after
          (rankedRun.map (ServiceEvent.shifted ⟨1⟩))).discoverOf .integrator {} 9).map (·.serial)
        = [2, 1, 1] := by
  have hcount : registrationCount rankedRun < 2 ^ 64 - 1 := by decide
  obtain ⟨-, hother⟩ := discovery_is_ranked true rankedRun hcount .integrator {} 9
  have hsame : ∀ r : ServiceRegistry, r.SameContents r := fun r => ⟨rfl, fun _ => List.Perm.refl _⟩
  have hlonger := hother [] rankedRun .strategy ⟨4, ⟨[]⟩⟩ none rfl (by decide) (by decide) _ _
    (hsame _) (hsame _)
  have hregistered : ((new true).after rankedRun).registered .integrator
      = [⟨⟨1⟩, 0, ⟨1, ⟨"audit", none⟩⟩⟩, ⟨⟨2⟩, 5, ⟨2, ⟨"search", none⟩⟩⟩,
        ⟨⟨4⟩, 5, ⟨1, ⟨"audit", none⟩⟩⟩] := rfl
  have hfound : (((new true).after rankedRun).discoverOf .integrator {} 9).map (·.serial)
      = [2, 1, 1] := by
    rw [discoverOf, hregistered]
    simp [Registration.ranked, List.mergeSort, Registration.precedes, linkedInstances,
      Shared.numbered, LinkedContributions.of, List.MergeSort.Internal.splitInTwo]
  refine ⟨hcount, hfound, ?_⟩
  rw [← hfound]
  exact congrArg _ hlonger

end ServiceRegistry

end UnitBinding
