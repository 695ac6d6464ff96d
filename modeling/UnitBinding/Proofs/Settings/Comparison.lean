import UnitBinding.Proofs.Settings.Program

set_option autoImplicit false

/-! # Composed settings compared

Settings hold what was discovered when they were composed. Two compositions of one program, with
anything in between, differ in a kind of contributions only as far as registrations of that kind came
or went, and in the instances of linked contributions, which every composition makes anew
(`SettingsStore.found_eq`). So whether two lists are the same depends on the linked contributions as
well, also if nothing was registered in between. -/

namespace UnitBinding

/-! ## New instances -/

theorem Shared.serial_of_mem_numbered {α : Type} {start : Nat} {values : List α} {x : Shared α}
    (h : x ∈ Shared.numbered start values) : start ≤ x.serial ∧ x.serial < start + values.length := by
  induction values generalizing start with
  | nil => cases h
  | cons value rest ih =>
    rw [List.length_cons]
    rcases List.mem_cons.1 h with rfl | hrest
    · exact ⟨Nat.le_refl _, by show start < _; omega⟩
    · have hbounds := ih hrest
      omega

namespace ContributionList

variable {α : Type}

/-- A later list of the same kind: the registered services are the same instances in the same positions,
    and in the positions behind them stand new instances of the linked contributions. -/
structure Remade (earlier later : ContributionList α) (registered : List (Shared α))
    (reported : List α) : Prop where
  instances : ∃ made remade, earlier.contributions = registered ++ made
    ∧ later.contributions = registered ++ remade
    ∧ made.map (·.value) = reported ∧ remade.map (·.value) = reported
    ∧ ∀ x ∈ remade, ∀ y ∈ earlier.contributions, x.same y = false

theorem Remade.length_eq {earlier later : ContributionList α} {registered : List (Shared α)}
    {reported : List α} (h : Remade earlier later registered reported) :
    later.length = earlier.length := by
  obtain ⟨made, remade, hearlier, hlater, hmade, hremade, -⟩ := h.instances
  have hcount : remade.length = made.length := by
    rw [← List.length_map (·.value), hremade, ← hmade, List.length_map]
  show later.contributions.length = earlier.contributions.length
  rw [hearlier, hlater, List.length_append, List.length_append, hcount]

/-- The lists are the same exactly if nothing that is linked is reported. -/
theorem Remade.sameContributions_iff {earlier later : ContributionList α}
    {registered : List (Shared α)} {reported : List α}
    (h : Remade earlier later registered reported) :
    earlier.sameContributions later = true ↔ reported = [] := by
  obtain ⟨made, remade, hearlier, hlater, hmade, hremade, hnew⟩ := h.instances
  rw [ContributionList.sameContributions_iff]
  change earlier.contributions.map _ = later.contributions.map _ ↔ _
  constructor
  · intro hserials
    rw [hearlier, hlater, List.map_append, List.map_append, List.append_cancel_left_eq] at hserials
    cases remade with
    | nil => exact hremade.symm
    | cons x rest =>
      -- the first new instance would have to be one of the earlier list
      have hmem : x.serial ∈ made.map (·.serial) := hserials ▸ List.mem_cons_self
      obtain ⟨y, hy, hxy⟩ := List.mem_map.1 hmem
      have hdifferent := hnew x List.mem_cons_self y
        (hearlier ▸ List.mem_append_right registered hy)
      exact absurd hxy.symm (of_decide_eq_false hdifferent)
  · rintro rfl
    rw [hearlier, hlater, List.map_eq_nil_iff.1 hmade, List.map_eq_nil_iff.1 hremade]

end ContributionList

/-- The list of a kind in some settings. -/
def Settings.listOf? (settings : Settings) :
    (kind : Capability) → Option (ContributionList kind.Service)
  | .integrator => (settings.get? integratorsKey).bind SettingValue.asIntegrators?
  | .strategy => (settings.get? strategiesKey).bind SettingValue.asStrategies?
  | .contributor => (settings.get? contributorsKey).bind SettingValue.asContributors?

theorem Provider.listOf?_generateSettings (p : Provider) (found : ServiceRegistry.Discovered)
    (properties : Option Settings) (kind : Capability) :
    (p.generateSettings found properties).listOf? kind = some ⟨found.of kind⟩ := by
  have hentry := p.get?_generateSettings_kind found properties kind
  cases kind <;> exact congrArg (Option.bind · _) hentry

namespace SettingsStore

variable {ω : Type}

/-! ## What a composition finds -/

/-- The instances of linked contributions that a composition makes of a kind. -/
def reported (store : SettingsStore ω) (kind : Capability) : List kind.Service :=
  if store.host.services.includeLinked then
    (store.host.linked.of kind).map (·.contribution)
  else []

/-- What is found of a kind: what is registered, in its order, and new instances of what is linked. -/
theorem found_eq (store : SettingsStore ω) (kind : Capability) :
    ∃ start, store.host.next ≤ start
      ∧ start + (store.reported kind).length ≤ (Host.discovery.all store.host).2.next
      ∧ (Host.discovery.all store.host).1.of kind
        = (Registration.ranked (store.host.services.registered kind)).map (·.service)
          ++ Shared.numbered start (store.reported kind) := by
  have hcount : (store.reported kind).length ≤ (store.host.linked.of kind).length := by
    rw [reported]
    split
    · exact Nat.le_of_eq (List.length_map _)
    · exact Nat.zero_le _
  have hfound : ∀ start, store.host.services.discoverOf kind store.host.linked start
      = (Registration.ranked (store.host.services.registered kind)).map (·.service)
        ++ Shared.numbered start (store.reported kind) := by
    intro start
    rw [reported, ServiceRegistry.discoverOf]
    congr 1
    split <;> rfl
  have hnext := next_all store.host
  cases kind with
  | integrator =>
    have hlinked : store.host.linked.of .integrator = store.host.linked.integrators := rfl
    rw [hlinked] at hcount
    exact ⟨store.host.next, Nat.le_refl _, by omega, hfound _⟩
  | strategy =>
    have hlinked : store.host.linked.of .strategy = store.host.linked.strategies := rfl
    rw [hlinked] at hcount
    refine ⟨store.host.next + store.host.linked.integrators.length, by omega, by omega, hfound _⟩
  | contributor =>
    have hlinked : store.host.linked.of .contributor = store.host.linked.contributors := rfl
    rw [hlinked] at hcount
    refine ⟨store.host.next + store.host.linked.integrators.length
      + store.host.linked.strategies.length, by omega, by omega, hfound _⟩

/-- What is found has serials below the counter afterwards. -/
theorem Sound.serial_lt {store : SettingsStore ω} (h : store.Sound) {kind : Capability}
    {y : Shared kind.Service} (hy : y ∈ (Host.discovery.all store.host).1.of kind) :
    y.serial < (Host.discovery.all store.host).2.next := by
  obtain ⟨start, hstart, hcount, hfound⟩ := store.found_eq kind
  rw [hfound] at hy
  rcases List.mem_append.1 hy with hy | hy
  · obtain ⟨r, hr, rfl⟩ := List.mem_map.1 hy
    have hknown := h.known kind r ((List.mergeSort_perm _ _).mem_iff.1 hr)
    omega
  · have hbounds := Shared.serial_of_mem_numbered hy
    omega

/-- **The lists of two compositions.** While no service of a kind comes or goes, its list is remade. -/
theorem remade_of_untouched {store : SettingsStore ω} (hsound : store.Sound) (p : Provider)
    (caller : Option String) (name : String) {between : List StoreEvent} {kind : Capability}
    (h : (store.compose p caller name).untouched kind between = true) :
    ContributionList.Remade ⟨(Host.discovery.all store.host).1.of kind⟩
      ⟨(Host.discovery.all ((store.compose p caller name).after between).host).1.of kind⟩
      ((Registration.ranked (store.host.services.registered kind)).map (·.service))
      (store.reported kind) := by
  let composed := store.compose p caller name
  have hcomposed : composed.Sound := hsound.step (.compose p caller name)
  have hranked : Registration.ranked ((composed.after between).host.services.registered kind)
      = Registration.ranked (store.host.services.registered kind) :=
    (hsound.distinct kind).ranked_eq (perm_registered_of_untouched h)
  have hreported : (composed.after between).reported kind = store.reported kind := by
    obtain ⟨hlinked, hinclude⟩ := linked_after composed between
    rw [reported, hinclude, hlinked]
    rfl
  obtain ⟨start, hstart, -, hfound⟩ := store.found_eq kind
  obtain ⟨again, hagain, -, hrefound⟩ := (composed.after between).found_eq kind
  rw [hranked, hreported] at hrefound
  refine ⟨_, _, hfound, hrefound, Shared.map_value_numbered _ _, Shared.map_value_numbered _ _, ?_⟩
  intro x hx y hy
  -- the new instances are behind the counter, and everything found before is below it
  have hbelow : y.serial < composed.host.next := hsound.serial_lt hy
  have hmoved := next_le_after composed between
  have hbeyond := (Shared.serial_of_mem_numbered hx).1
  exact decide_eq_false (by omega)

theorem reported_after_new (includeLinked : Bool) (linked : LinkedContributions)
    (events : List StoreEvent) (kind : Capability) :
    ((new includeLinked linked : SettingsStore ω).after events).reported kind
      = if includeLinked then (linked.of kind).map (·.contribution) else [] := by
  obtain ⟨hlinked, hinclude⟩ := linked_after (new includeLinked linked : SettingsStore ω) events
  rw [reported, hinclude, hlinked]
  rfl

/-- **Compositions compared.** In every program over one registry, for any two compositions with
    anything in between, and for each kind of contributions:

    * the settings that are composed hold a list of what is registered at that moment, in the order of
      discovery, and of what is linked, if that is reported, in instances of which none is registered; it
      yields the same by iteration;
    * if no service of the kind was registered or taken away in between, the later list has the same
      length, with the identical instances of what is registered, and with new instances, different from
      all of the earlier list, of what is linked; so the lists are the same exactly if nothing linked is
      reported;
    * an event that touches another kind leaves the discovery of this one as it is;
    * the earlier settings, and copies of them, are still what was composed, under every name where they
      are kept. -/
theorem compositions_compared (includeLinked : Bool) (linked : LinkedContributions)
    (first between : List StoreEvent) (p q : Provider) (caller other : Option String)
    (name again : String) :
    let store := (new includeLinked linked : SettingsStore ω).after first
    let composed := store.compose p caller name
    let later := composed.after between
    let recomposed := later.compose q other again
    ∃ settings renewed : Settings, composed.kept.get? name = some settings
      ∧ recomposed.kept.get? again = some renewed
      ∧ (∀ kind : Capability,
        let registered := (Registration.ranked (store.host.services.registered kind)).map (·.service)
        let reported := if includeLinked then (linked.of kind).map (·.contribution) else []
        ∃ list relist, settings.listOf? kind = some list ∧ renewed.listOf? kind = some relist
          ∧ list.iter.collect = list.contributions
          ∧ (∃ made, list.contributions = registered ++ made ∧ made.map (·.value) = reported
            ∧ ∀ x ∈ made, ∀ any, ∀ r ∈ store.host.services.registered any,
              x.serial ≠ r.service.serial)
          ∧ (composed.untouched kind between = true →
            relist.length = list.length ∧ ContributionList.Remade list relist registered reported
              ∧ (list.sameContributions relist = true
                ↔ includeLinked = false ∨ linked.of kind = [])))
      ∧ (∀ (services : ServiceRegistry) (event : ServiceEvent) (touched kind : Capability),
        services.touches touched event = true → touched ≠ kind → ∀ serial,
          (services.step event).discoverOf kind linked serial
            = services.discoverOf kind linked serial)
      ∧ ∀ holder ∈ between.foldl StoreEvent.holders [name],
        later.kept.get? holder = some settings := by
  intro store composed later recomposed
  have hsound : store.Sound := (sound_new includeLinked linked).after first
  have hkept : composed.kept.get? name
      = some (p.generateSettings (Host.discovery.all store.host).1 (store.passed caller)) :=
    Table.get?_set_self _ _ _
  refine ⟨_, _, hkept, Table.get?_set_self _ _ _, fun kind => ?_,
    fun services event touched kind htouched hne serial => ?_, ?_⟩
  · intro registered reported
    have hreported : store.reported kind = reported :=
      reported_after_new includeLinked linked first kind
    refine ⟨_, _, p.listOf?_generateSettings _ _ kind, q.listOf?_generateSettings _ _ kind,
      Iteration.collect_eq _, ?_, fun huntouched => ?_⟩
    · obtain ⟨start, hstart, -, hfound⟩ := store.found_eq kind
      rw [hreported] at hfound
      refine ⟨_, hfound, Shared.map_value_numbered _ _, fun x hx any r hr => ?_⟩
      have hnew := (Shared.serial_of_mem_numbered hx).1
      have hknown := hsound.known any r hr
      omega
    · have hremade := remade_of_untouched hsound p caller name huntouched
      rw [hreported] at hremade
      refine ⟨hremade.length_eq, hremade, hremade.sameContributions_iff.trans ?_⟩
      show (if includeLinked then (linked.of kind).map (·.contribution) else []) = [] ↔ _
      cases includeLinked <;> simp
  · have hspared : services.touches kind event = false := by
      cases hkind : services.touches kind event with
      | false => rfl
      | true => exact absurd (ServiceRegistry.eq_of_touches htouched hkind) hne
    rw [ServiceRegistry.discoverOf, ServiceRegistry.registered_step_of_not_touches hspared,
      services.includeLinked_step event]
    rfl
  · refine get?_kept_holders_after (fun holder hholder => ?_) between
    rw [List.mem_singleton.1 hholder]
    exact hkept

/-- With a linked integrator the integrators are not the same again, although only a strategy was
    registered in between and an id that is not known taken away; the contributors are, and a copy holds
    what was composed. -/
theorem compositions_compared_linked :
    let p : Provider := ⟨⟨"local", true⟩, default⟩
    let linked : LinkedContributions := { integrators := [⟨"search", "Search", ⟨"search", none⟩⟩] }
    let store := (new true linked : SettingsStore Unit).after
      [.service (.register .integrator ⟨1, ⟨"audit", none⟩⟩ none)]
    let between : List StoreEvent :=
      [.service (.register .strategy ⟨7, ⟨[]⟩⟩ (some 3)), .copy "first" "copied",
        .enumerate ⟨fun _ registrations => registrations.reverse, fun _ => List.reverse_perm⟩,
        .service (.unregister ⟨40⟩)]
    let composed := store.compose p none "first"
    let later := composed.after between
    let recomposed := later.compose p (some "copied") "second"
    composed.untouched .integrator between = true ∧ composed.untouched .strategy between = false
      ∧ ∃ settings renewed : Settings, recomposed.kept.get? "second" = some renewed
        ∧ later.kept.get? "copied" = some settings
        ∧ (∃ list relist, settings.listOf? .integrator = some list
          ∧ renewed.listOf? .integrator = some relist ∧ relist.length = list.length
          ∧ list.sameContributions relist = false)
        ∧ ∃ list relist, settings.listOf? .contributor = some list
          ∧ renewed.listOf? .contributor = some relist ∧ list.sameContributions relist = true := by
  intro p linked store between composed later recomposed
  have hintegrators : composed.untouched .integrator between = true := by decide
  have hcontributors : composed.untouched .contributor between = true := by decide
  obtain ⟨settings, renewed, -, hrenewed, hlists, -, hkept⟩ :=
    compositions_compared (ω := Unit) true linked
      [.service (.register .integrator ⟨1, ⟨"audit", none⟩⟩ none)] between p p none (some "copied")
      "first" "second"
  obtain ⟨list, relist, hlist, hrelist, -, -, hsame⟩ := hlists .integrator
  obtain ⟨hlength, -, hiff⟩ := hsame hintegrators
  obtain ⟨others, reothers, hothers, hreothers, -, -, hsameOthers⟩ := hlists .contributor
  obtain ⟨-, -, hiffOthers⟩ := hsameOthers hcontributors
  refine ⟨hintegrators, by decide, settings, renewed, hrenewed, hkept "copied" (by decide),
    ⟨list, relist, hlist, hrelist, hlength, ?_⟩, others, reothers, hothers, hreothers,
    hiffOthers.2 (Or.inr rfl)⟩
  -- were they the same, nothing linked would be reported
  cases hverdict : list.sameContributions relist with
  | false => rfl
  | true => exact absurd (hiff.1 hverdict) (by decide)

end SettingsStore

end UnitBinding
