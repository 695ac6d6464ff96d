import UnitBinding.Config.Layers

set_option autoImplicit false

/-! # The settings of a configuration

A configuration consists of eight settings. `Setting` lists them, and says of each which path it has in
the sources, which type its values have, how it is read, and where it stands in a configuration, so
that what holds of every setting is said once. `AppConfig.ofTree_eq_ok_iff` is the view of a whole
configuration as its settings: it can be read from a tree exactly if every setting can be, and then
each of them is what was read. -/

namespace UnitBinding

/-- One of the settings. -/
inductive Setting where
  | level
  | jsonFormat
  | fileOutput
  | maxFiles
  | maxCapacity
  | timeToIdleSecs
  | installGlobal
  | includeLinked
  deriving DecidableEq, Inhabited

namespace Setting

/-- The section that a setting belongs to. -/
def sectionName : Setting → String
  | .level | .jsonFormat | .fileOutput | .maxFiles => "logging"
  | .maxCapacity | .timeToIdleSecs | .installGlobal => "accessor_cache"
  | .includeLinked => "discovery"

/-- The key of a setting in its section. -/
def key : Setting → String
  | .level => "level"
  | .jsonFormat => "json_format"
  | .fileOutput => "file_output"
  | .maxFiles => "max_files"
  | .maxCapacity => "max_capacity"
  | .timeToIdleSecs => "time_to_idle_secs"
  | .installGlobal => "install_global"
  | .includeLinked => "include_linked"

/-- The keys that lead to a setting. -/
def path (s : Setting) : List String := [s.sectionName, s.key]

/-- The type of the values of a setting. -/
abbrev Value : Setting → Type
  | .level => String
  | .fileOutput => Option RawText
  | .maxFiles | .maxCapacity | .timeToIdleSecs => Nat
  | .jsonFormat | .installGlobal | .includeLinked => Bool

/-- The value of a setting in a configuration. -/
def of (config : AppConfig) : (s : Setting) → s.Value
  | .level => config.logging.level
  | .jsonFormat => config.logging.jsonFormat
  | .fileOutput => config.logging.fileOutput
  | .maxFiles => config.logging.maxFiles
  | .maxCapacity => config.accessorCache.maxCapacity
  | .timeToIdleSecs => config.accessorCache.timeToIdleSecs
  | .installGlobal => config.accessorCache.installGlobal
  | .includeLinked => config.discovery.includeLinked

/-- How a value of a source is read as a setting. -/
def decode : (s : Setting) → ConfigValue → Except ConfigProblem s.Value
  | .level => ConfigValue.asText
  | .fileOutput => ConfigValue.asPath
  | .maxFiles => ConfigValue.asNatural "usize"
  | .maxCapacity | .timeToIdleSecs => ConfigValue.asNatural "u64"
  | .jsonFormat | .installGlobal | .includeLinked => ConfigValue.asBool

/-- A setting from the value that a source has for it; without one the setting has its default. -/
def convert (s : Setting) : Option ConfigValue → Except ConfigProblem s.Value
  | none => .ok (of {} s)
  | some value => s.decode value

end Setting

/-! ## Settings in a tree -/

/-- The members of a tree; a single value has none. -/
def ConfigTree.members : ConfigTree → List (String × ConfigTree)
  | .table _ members => members
  | .leaf _ _ => []

/-- The members of a section of a root table; none if there is no such section. -/
def ConfigTree.sectionIn (name : String) (members : List (String × ConfigTree)) :
    List (String × ConfigTree) :=
  ((Table.findIn name members).map ConfigTree.members).getD []

/-- The value of a setting under its path. -/
def Setting.find (s : Setting) (members : List (String × ConfigTree)) : Option ConfigValue :=
  (Table.findIn s.key (ConfigTree.sectionIn s.sectionName members)).map fun tree => tree.asValue.2

/-- The sections of a root table are tables where they are present. -/
def ConfigTree.SectionsOpen (members : List (String × ConfigTree)) : Prop :=
  ∀ (s : Setting) (tree : ConfigTree), Table.findIn s.sectionName members = some tree →
    ∃ origin inner, tree = .table origin inner

/-! ## Reading all settings -/

/-- One setting of a section. -/
theorem Setting.setting_eq_ok_iff (s : Setting) (members : List (String × ConfigTree))
    (value : s.Value) :
    ConfigTree.setting s.sectionName s.key (Setting.of {} s) s.decode members = .ok value
      ↔ s.convert ((Table.findIn s.key members).map fun tree => tree.asValue.2) = .ok value := by
  rw [ConfigTree.setting]
  cases Table.findIn s.key members with
  | none => simp [Setting.convert]
  | some tree =>
    simp only [ConfigTree.readValue, Option.map_some, Setting.convert]
    cases s.decode tree.asValue.2 <;> simp

/-- A section that is absent reads as an empty one, wherever that comes from. -/
theorem ConfigTree.sectionOr_eq {α : Type} {members : List (String × ConfigTree)}
    (hopen : SectionsOpen members) (s : Setting) {standard : α} {decode : ConfigTree → Extracted α}
    (hempty : decode (.table default []) = .ok standard)
    (horigin : ∀ origin inner, decode (.table origin inner) = decode (.table default inner)) :
    sectionOr s.sectionName standard decode members
      = decode (.table default (sectionIn s.sectionName members)) := by
  rw [sectionOr, sectionIn]
  cases hfound : Table.findIn s.sectionName members with
  | none => exact hempty.symm
  | some tree =>
    obtain ⟨origin, inner, rfl⟩ := hopen s tree hfound
    exact horigin origin inner

theorem LoggingConfig.ofTree_eq_ok_iff {origin : Origin} {inner : List (String × ConfigTree)}
    {c : LoggingConfig} :
    LoggingConfig.ofTree (.table origin inner) = .ok c
      ↔ ∀ s : Setting, s.sectionName = "logging" →
        s.convert ((Table.findIn s.key inner).map fun tree => tree.asValue.2)
          = .ok (Setting.of { logging := c } s) := by
  constructor
  · intro h
    obtain ⟨fileOutput, hfile, h⟩ := bind_eq_ok_iff.1 h
    obtain ⟨jsonFormat, hjson, h⟩ := bind_eq_ok_iff.1 h
    obtain ⟨level, hlevel, h⟩ := bind_eq_ok_iff.1 h
    obtain ⟨maxFiles, hmax, h⟩ := bind_eq_ok_iff.1 h
    obtain rfl := Except.ok.inj h
    intro s hs
    rw [← s.setting_eq_ok_iff]
    cases s with
    | level => exact hlevel
    | jsonFormat => exact hjson
    | fileOutput => exact hfile
    | maxFiles => exact hmax
    | maxCapacity | timeToIdleSecs | installGlobal | includeLinked => exact absurd hs (by decide)
  · intro h
    have hread := fun s hs => (Setting.setting_eq_ok_iff s inner _).2 (h s hs)
    refine bind_eq_ok_iff.2 ⟨_, hread .fileOutput rfl, ?_⟩
    refine bind_eq_ok_iff.2 ⟨_, hread .jsonFormat rfl, ?_⟩
    refine bind_eq_ok_iff.2 ⟨_, hread .level rfl, ?_⟩
    exact bind_eq_ok_iff.2 ⟨_, hread .maxFiles rfl, rfl⟩

theorem AccessorCacheConfig.ofTree_eq_ok_iff {origin : Origin}
    {inner : List (String × ConfigTree)} {c : AccessorCacheConfig} :
    AccessorCacheConfig.ofTree (.table origin inner) = .ok c
      ↔ ∀ s : Setting, s.sectionName = "accessor_cache" →
        s.convert ((Table.findIn s.key inner).map fun tree => tree.asValue.2)
          = .ok (Setting.of { accessorCache := c } s) := by
  constructor
  · intro h
    obtain ⟨installGlobal, hglobal, h⟩ := bind_eq_ok_iff.1 h
    obtain ⟨maxCapacity, hcapacity, h⟩ := bind_eq_ok_iff.1 h
    obtain ⟨timeToIdleSecs, hidle, h⟩ := bind_eq_ok_iff.1 h
    obtain rfl := Except.ok.inj h
    intro s hs
    rw [← s.setting_eq_ok_iff]
    cases s with
    | maxCapacity => exact hcapacity
    | timeToIdleSecs => exact hidle
    | installGlobal => exact hglobal
    | level | jsonFormat | fileOutput | maxFiles | includeLinked => exact absurd hs (by decide)
  · intro h
    have hread := fun s hs => (Setting.setting_eq_ok_iff s inner _).2 (h s hs)
    refine bind_eq_ok_iff.2 ⟨_, hread .installGlobal rfl, ?_⟩
    refine bind_eq_ok_iff.2 ⟨_, hread .maxCapacity rfl, ?_⟩
    exact bind_eq_ok_iff.2 ⟨_, hread .timeToIdleSecs rfl, rfl⟩

theorem DiscoveryConfig.ofTree_eq_ok_iff {origin : Origin} {inner : List (String × ConfigTree)}
    {c : DiscoveryConfig} :
    DiscoveryConfig.ofTree (.table origin inner) = .ok c
      ↔ ∀ s : Setting, s.sectionName = "discovery" →
        s.convert ((Table.findIn s.key inner).map fun tree => tree.asValue.2)
          = .ok (Setting.of { discovery := c } s) := by
  constructor
  · intro h
    obtain ⟨includeLinked, hlinked, h⟩ := bind_eq_ok_iff.1 h
    obtain rfl := Except.ok.inj h
    intro s hs
    rw [← s.setting_eq_ok_iff]
    cases s with
    | includeLinked => exact hlinked
    | level | jsonFormat | fileOutput | maxFiles | maxCapacity | timeToIdleSecs | installGlobal =>
      exact absurd hs (by decide)
  · intro h
    have hread := fun s hs => (Setting.setting_eq_ok_iff s inner _).2 (h s hs)
    exact bind_eq_ok_iff.2 ⟨_, hread .includeLinked rfl, rfl⟩

/-- **A configuration is read setting by setting.** -/
theorem AppConfig.ofTree_eq_ok_iff {members : List (String × ConfigTree)}
    (hopen : ConfigTree.SectionsOpen members) {config : AppConfig} :
    AppConfig.ofTree members = .ok config
      ↔ ∀ s : Setting, s.convert (s.find members) = .ok (Setting.of config s) := by
  have hlogging : ConfigTree.sectionOr "logging" {} LoggingConfig.ofTree members = _ :=
    ConfigTree.sectionOr_eq hopen .level rfl fun _ _ => rfl
  have hcache : ConfigTree.sectionOr "accessor_cache" {} AccessorCacheConfig.ofTree members = _ :=
    ConfigTree.sectionOr_eq hopen .maxCapacity rfl fun _ _ => rfl
  have hdiscovery : ConfigTree.sectionOr "discovery" {} DiscoveryConfig.ofTree members = _ :=
    ConfigTree.sectionOr_eq hopen .includeLinked rfl fun _ _ => rfl
  rw [ofTree, hlogging, hcache, hdiscovery]
  constructor
  · intro h
    obtain ⟨accessorCache, haccessor, h⟩ := bind_eq_ok_iff.1 h
    obtain ⟨discovery, hdisc, h⟩ := bind_eq_ok_iff.1 h
    obtain ⟨logging, hlog, h⟩ := bind_eq_ok_iff.1 h
    obtain rfl := Except.ok.inj h
    intro s
    cases s with
    | level | jsonFormat | fileOutput | maxFiles =>
      exact LoggingConfig.ofTree_eq_ok_iff.1 hlog _ rfl
    | maxCapacity | timeToIdleSecs | installGlobal =>
      exact AccessorCacheConfig.ofTree_eq_ok_iff.1 haccessor _ rfl
    | includeLinked => exact DiscoveryConfig.ofTree_eq_ok_iff.1 hdisc _ rfl
  · intro h
    obtain ⟨logging, accessorCache, discovery⟩ := config
    refine bind_eq_ok_iff.2 ⟨accessorCache, AccessorCacheConfig.ofTree_eq_ok_iff.2 ?_, ?_⟩
    · intro s hs
      cases s with
      | maxCapacity | timeToIdleSecs | installGlobal => exact h _
      | level | jsonFormat | fileOutput | maxFiles | includeLinked => exact absurd hs (by decide)
    refine bind_eq_ok_iff.2 ⟨discovery, DiscoveryConfig.ofTree_eq_ok_iff.2 ?_, ?_⟩
    · intro s hs
      cases s with
      | includeLinked => exact h _
      | level | jsonFormat | fileOutput | maxFiles | maxCapacity | timeToIdleSecs
        | installGlobal => exact absurd hs (by decide)
    refine bind_eq_ok_iff.2 ⟨logging, LoggingConfig.ofTree_eq_ok_iff.2 ?_, rfl⟩
    intro s hs
    cases s with
    | level | jsonFormat | fileOutput | maxFiles => exact h _
    | maxCapacity | timeToIdleSecs | installGlobal | includeLinked => exact absurd hs (by decide)

end UnitBinding
