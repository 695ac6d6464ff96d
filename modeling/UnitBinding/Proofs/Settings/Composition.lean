import UnitBinding.Hosting

set_option autoImplicit false

/-! # The composed settings, key by key

A composition overwrites four keys: the platform, and one list for each kind of contributions.
`Provider.get?_generateSettings` says what stands under every key, and everything else follows from
that: entries of a caller under the four keys have no influence, and a composition from composed settings
only makes the lists anew.

Callers keep their settings while others are composed from them. In a `SettingsStore` both stand under
names, so that `SettingsStore.compose_pointwise` can speak of settings before and after a composition. -/

namespace UnitBinding

/-! ## Keys and lists of a kind -/

/-- The key of the list of a kind. -/
def Capability.settingsKey : Capability → String
  | .integrator => integratorsKey
  | .strategy => strategiesKey
  | .contributor => contributorsKey

/-- A list of a kind as the value of a setting. -/
def SettingValue.ofServices : (kind : Capability) → List (Shared kind.Service) → SettingValue
  | .integrator, services => .integrators ⟨services⟩
  | .strategy, services => .strategies ⟨services⟩
  | .contributor, services => .contributors ⟨services⟩

/-- What was found of a kind. -/
def ServiceRegistry.Discovered.of (found : ServiceRegistry.Discovered) :
    (kind : Capability) → List (Shared kind.Service)
  | .integrator => found.integrators
  | .strategy => found.strategies
  | .contributor => found.contributors

/-- A composition writes under the key. -/
def IsComposedKey (key : String) : Prop :=
  key = transactionPlatformKey ∨ ∃ kind : Capability, key = kind.settingsKey

/-- What a caller has under a key; nothing without settings. -/
def Settings.entry? (properties : Option Settings) (key : String) : Option SettingValue :=
  properties.bind fun settings => settings.get? key

/-! ## Composing -/

theorem Table.get?_set {κ α : Type} [DecidableEq κ] (table : Table κ α) (key other : κ) (value : α) :
    (table.set key value).get? other = if other = key then some value else table.get? other := by
  split
  · rename_i hkey
    rw [hkey, get?_set_self]
  · rename_i hkey
    exact get?_set_of_ne table key other value hkey

namespace Provider

variable (p : Provider) (found : ServiceRegistry.Discovered) (properties : Option Settings)

/-- **What stands under a key.** -/
theorem get?_generateSettings (key : String) :
    (p.generateSettings found properties).get? key
      = if key = contributorsKey then some (.contributors ⟨found.contributors⟩)
        else if key = strategiesKey then some (.strategies ⟨found.strategies⟩)
        else if key = integratorsKey then some (.integrators ⟨found.integrators⟩)
        else if key = transactionPlatformKey then some (.platform p.platform)
        else Settings.entry? properties key := by
  have hcaller : (properties.getD Table.empty).get? key = Settings.entry? properties key := by
    cases properties <;> rfl
  rw [generateSettings, Table.get?_set, Table.get?_set, Table.get?_set, Table.get?_set, hcaller]

theorem get?_generateSettings_platform :
    (p.generateSettings found properties).get? transactionPlatformKey
      = some (.platform p.platform) := by
  rw [get?_generateSettings, if_neg (by decide), if_neg (by decide), if_neg (by decide), if_pos rfl]

theorem get?_generateSettings_kind (kind : Capability) :
    (p.generateSettings found properties).get? kind.settingsKey
      = some (.ofServices kind (found.of kind)) := by
  rw [get?_generateSettings]
  cases kind <;> rfl

theorem get?_generateSettings_of_not_composed {key : String} (h : ¬ IsComposedKey key) :
    (p.generateSettings found properties).get? key = Settings.entry? properties key := by
  have hintegrators : key ≠ integratorsKey := fun hkey => h (Or.inr ⟨.integrator, hkey⟩)
  have hstrategies : key ≠ strategiesKey := fun hkey => h (Or.inr ⟨.strategy, hkey⟩)
  have hcontributors : key ≠ contributorsKey := fun hkey => h (Or.inr ⟨.contributor, hkey⟩)
  rw [get?_generateSettings, if_neg hcontributors, if_neg hstrategies, if_neg hintegrators,
    if_neg fun hkey => h (Or.inl hkey)]

/-- What a caller has under the composed keys has no influence. -/
theorem get?_generateSettings_congr {other : Option Settings}
    (h : ∀ key, ¬ IsComposedKey key → Settings.entry? other key = Settings.entry? properties key)
    (key : String) :
    (p.generateSettings found other).get? key = (p.generateSettings found properties).get? key := by
  by_cases hkey : IsComposedKey key
  · rcases hkey with rfl | ⟨kind, rfl⟩
    · rw [get?_generateSettings_platform, get?_generateSettings_platform]
    · rw [get?_generateSettings_kind, get?_generateSettings_kind]
  · rw [get?_generateSettings_of_not_composed _ _ _ hkey,
      get?_generateSettings_of_not_composed _ _ _ hkey, h key hkey]

end Provider

/-! ## Composing again -/

/-- The same services in the same order: those that were registered as the same instances, and those that
    are linked perhaps as new ones. -/
def SameServices {α : Type} (earlier later : List (Shared α)) : Prop :=
  ∃ registered linked relinked, earlier = registered ++ linked ∧ later = registered ++ relinked
    ∧ linked.map (·.value) = relinked.map (·.value)

theorem SameServices.length_eq {α : Type} {earlier later : List (Shared α)}
    (h : SameServices earlier later) : earlier.length = later.length := by
  obtain ⟨registered, linked, relinked, rfl, rfl, hvalues⟩ := h
  have hlength := congrArg List.length hvalues
  rw [List.length_map, List.length_map] at hlength
  rw [List.length_append, List.length_append, hlength]

/-- A registry discovers the same services again and again. -/
theorem ServiceRegistry.sameServices_discoverOf (r : ServiceRegistry) (kind : Capability)
    (linked : LinkedContributions) (serial later : Nat) :
    SameServices (r.discoverOf kind linked serial) (r.discoverOf kind linked later) := by
  refine ⟨_, _, _, rfl, rfl, ?_⟩
  cases r.includeLinked with
  | true => exact (Shared.map_value_numbered serial _).trans (Shared.map_value_numbered later _).symm
  | false => rfl

/-- Settings with the same keys, with the same entries apart from the lists, and with lists of the same
    services. -/
structure Settings.Renewed (earlier later : Settings) : Prop where
  keys : ∀ key, earlier.contains key = later.contains key
  entries : ∀ key, (∀ kind : Capability, key ≠ kind.settingsKey) →
    later.get? key = earlier.get? key
  lists : ∀ kind : Capability, ∃ services renewed,
    earlier.get? kind.settingsKey = some (.ofServices kind services)
      ∧ later.get? kind.settingsKey = some (.ofServices kind renewed)
      ∧ services.length = renewed.length ∧ SameServices services renewed

/-- A composition from composed settings makes the lists anew, and nothing else. -/
theorem Provider.renewed_generateSettings (p : Provider) {found again : ServiceRegistry.Discovered}
    (hsame : ∀ kind, SameServices (found.of kind) (again.of kind)) (properties : Option Settings) :
    (p.generateSettings found properties).Renewed
      (p.generateSettings again (some (p.generateSettings found properties))) := by
  have hentries : ∀ key, (∀ kind : Capability, key ≠ kind.settingsKey) →
      (p.generateSettings again (some (p.generateSettings found properties))).get? key
        = (p.generateSettings found properties).get? key := by
    intro key hkind
    by_cases hplatform : key = transactionPlatformKey
    · -- this entry is written anew as well, with the same platform
      rw [hplatform, get?_generateSettings_platform, get?_generateSettings_platform]
    · refine p.get?_generateSettings_of_not_composed _ _ ?_
      rintro (hkey | ⟨kind, hkey⟩)
      · exact hplatform hkey
      · exact hkind kind hkey
  refine ⟨fun key => ?_, hentries, fun kind => ?_⟩
  · rw [Table.contains, Table.contains]
    by_cases hkind : ∃ kind : Capability, key = kind.settingsKey
    · obtain ⟨kind, rfl⟩ := hkind
      rw [get?_generateSettings_kind, get?_generateSettings_kind]
      rfl
    · rw [hentries key fun kind hkey => hkind ⟨kind, hkey⟩]
  · exact ⟨_, _, p.get?_generateSettings_kind _ _ kind, p.get?_generateSettings_kind _ _ kind,
      (hsame kind).length_eq, hsame kind⟩

/-! ## Settings that callers keep -/

/-- A program whose callers keep settings under names. -/
structure SettingsStore (ω : Type) where
  host : Host ω
  kept : Table String Settings := Table.empty

namespace SettingsStore

variable {ω : Type}

/-- The settings that a caller passes: those under a name, or none. -/
def passed (store : SettingsStore ω) (caller : Option String) : Option Settings :=
  caller.bind fun name => store.kept.get? name

/-- Compose from the settings that a caller passes, and keep the result under a name. -/
def compose (store : SettingsStore ω) (p : Provider) (caller : Option String) (result : String) :
    SettingsStore ω :=
  let (composed, host) := p.compose Host.discovery (store.passed caller) store.host
  ⟨host, store.kept.set result composed⟩

/-- What is found of a kind is what the registry discovers at that moment. -/
theorem exists_serial_of_all (host : Host ω) (kind : Capability) :
    ∃ serial, (Host.discovery.all host).1.of kind
      = host.services.discoverOf kind host.linked serial := by
  cases kind <;> exact ⟨_, rfl⟩

theorem sameServices_all {host later : Host ω} (hservices : later.services = host.services)
    (hlinked : later.linked = host.linked) (kind : Capability) :
    SameServices ((Host.discovery.all host).1.of kind) ((Host.discovery.all later).1.of kind) := by
  obtain ⟨serial, hfound⟩ := exists_serial_of_all host kind
  obtain ⟨again, hagain⟩ := exists_serial_of_all later kind
  rw [hfound, hagain, hservices, hlinked]
  exact host.services.sameServices_discoverOf kind host.linked serial again

/-- **Composed settings, key by key.** Whatever is registered, and whatever a caller passes or does not
    pass:

    * under the platform's key stands the provider's platform, and under the key of each kind the list of
      what the registry discovers of it at that moment; under every other key, that of the scanner
      included, stands what the caller has there, if anything;
    * the caller's settings and all others that are kept stay what they were, and so does the registry;
    * settings that differ under the four keys alone lead to the same result;
    * composing again from the result, as long as the registry is what it was, makes the lists anew, with
      the same services in the same order, and changes nothing else;
    * only a build adds the scanner, and changes no other entry. -/
theorem compose_pointwise (store : SettingsStore ω) (p : Provider) (caller : Option String)
    (result : String) :
    let found := (Host.discovery.all store.host).1
    let after := store.compose p caller result
    ∃ composed : Settings, after.kept.get? result = some composed
      ∧ composed.get? transactionPlatformKey = some (.platform p.platform)
      ∧ (∀ kind : Capability, composed.get? kind.settingsKey = some (.ofServices kind (found.of kind))
        ∧ ∃ serial, found.of kind
          = store.host.services.discoverOf kind store.host.linked serial)
      ∧ (∀ key, ¬ IsComposedKey key →
        composed.get? key = Settings.entry? (store.passed caller) key)
      ∧ ¬ IsComposedKey scannerKey
      ∧ (∀ name, name ≠ result → after.kept.get? name = store.kept.get? name)
      ∧ after.host.services = store.host.services ∧ after.host.linked = store.host.linked
      ∧ (∀ other, (∀ key, ¬ IsComposedKey key → Settings.entry? (store.passed other) key
          = Settings.entry? (store.passed caller) key) →
        ∃ same : Settings, (store.compose p other result).kept.get? result = some same
          ∧ ∀ key, same.get? key = composed.get? key)
      ∧ (∀ (later : SettingsStore ω) (again : String),
        later.host.services = store.host.services → later.host.linked = store.host.linked →
        later.kept.get? result = some composed →
        ∃ second, (later.compose p (some result) again).kept.get? again = some second
          ∧ composed.Renewed second)
      ∧ ∀ (scanned : Bundle) (key : String),
        (p.boundSettings found (store.passed caller) scanned).get? key
          = if key = scannerKey then some (.scanner scanned) else composed.get? key := by
  intro found after
  refine ⟨p.generateSettings found (store.passed caller), Table.get?_set_self _ _ _,
    p.get?_generateSettings_platform _ _, fun kind => ⟨p.get?_generateSettings_kind _ _ kind,
      exists_serial_of_all store.host kind⟩, fun key hkey =>
      p.get?_generateSettings_of_not_composed _ _ hkey, ?_, fun name hname =>
      Table.get?_set_of_ne _ _ _ _ hname, rfl, rfl, fun other hother => ?_,
    fun later again hservices hlinked hkept => ?_, fun scanned key => Table.get?_set _ _ _ _⟩
  · rintro (hkey | ⟨kind, hkey⟩)
    · exact absurd hkey (by decide)
    · cases kind <;> exact absurd hkey (by decide)
  · exact ⟨_, Table.get?_set_self _ _ _, p.get?_generateSettings_congr _ _ hother⟩
  · have hpassed : later.passed (some result) = some (p.generateSettings found (store.passed caller)) :=
      hkept
    refine ⟨_, Table.get?_set_self _ _ _, ?_⟩
    rw [hpassed]
    exact p.renewed_generateSettings (sameServices_all hservices hlinked) _

/-- A registry with one integrator, a linked one behind it, and a caller whose settings name a bundle to
    scan and a list of integrators of their own. -/
def sampleStore : SettingsStore Unit :=
  { host :=
      { services := (ServiceRegistry.new true).register .integrator ⟨1, ⟨"audit", none⟩⟩ 0
        linked := { integrators := [⟨"search", "Search", ⟨"search", none⟩⟩] }
        next := 5 }
    kept := Table.empty.set "mine" (Table.ofList
      [(scannerKey, .scanner default), (integratorsKey, .integrators ⟨[⟨3, ⟨"own", none⟩⟩]⟩)]) }

/-- The caller's scanner stays, the caller's integrator does not count, and the caller's settings are what
    they were; composed again, the list has a new instance of the linked integrator. -/
theorem compose_pointwise_own_list :
    let p : Provider := ⟨⟨"local", true⟩, default⟩
    let after := sampleStore.compose p (some "mine") "composed"
    ¬ IsComposedKey "other" ∧ "mine" ≠ "composed"
      ∧ after.kept.get? "mine" = sampleStore.kept.get? "mine"
      ∧ ∃ composed second : Settings, after.kept.get? "composed" = some composed
        ∧ composed.get? scannerKey = some (.scanner default) ∧ composed.get? "other" = none
        ∧ composed.get? integratorsKey
          = some (.integrators ⟨[⟨1, ⟨"audit", none⟩⟩, ⟨5, ⟨"search", none⟩⟩]⟩)
        ∧ (after.compose p (some "composed") "again").kept.get? "again" = some second
        ∧ composed.Renewed second := by
  intro p after
  obtain ⟨composed, hcomposed, -, hlists, hothers, hscanner, hkept, hservices, hlinked, -, hagain, -⟩ :=
    compose_pointwise sampleStore p (some "mine") "composed"
  have hother : ¬ IsComposedKey "other" := by
    rintro (hkey | ⟨kind, hkey⟩)
    · exact absurd hkey (by decide)
    · cases kind <;> exact absurd hkey (by decide)
  obtain ⟨second, hsecond, hrenewed⟩ := hagain after "again" hservices hlinked hcomposed
  have hfound : (Host.discovery.all sampleStore.host).1.of .integrator
      = [⟨1, ⟨"audit", none⟩⟩, ⟨5, ⟨"search", none⟩⟩] := by
    have hone : Registration.ranked sampleStore.host.services.integrators
        = sampleStore.host.services.integrators := List.mergeSort_singleton _
    show (Registration.ranked sampleStore.host.services.integrators).map Registration.service
      ++ _ = _
    rw [hone]
    rfl
  have hlist := (hlists .integrator).1
  rw [hfound] at hlist
  exact ⟨hother, by decide, hkept "mine" (by decide), composed, second, hcomposed,
    hothers scannerKey hscanner, hothers "other" hother, hlist, hsecond, hrenewed⟩

end SettingsStore

end UnitBinding
