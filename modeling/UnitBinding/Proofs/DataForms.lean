import Mathlib.Algebra.Group.Nat.Defs
import UnitBinding.AccessorCache
import UnitBinding.Bundle
import UnitBinding.Proofs.Config.Setting
import UnitBinding.Proofs.Json.Edit

set_option autoImplicit false

/-! # Data forms

Ten types have a form as data. Two are alternatives, written as texts; four are records whose fields all
have to be there (`Json.Strict`); and the configuration and its three sections are records in which every
field has a default.

`AppConfig.ResetTo` says what becomes of a configuration when parts of its data are taken away: exactly
the settings that are gone have their defaults. It is shown for a section first, and then for the
configuration, from which whole sections may be taken as well as single settings. -/

namespace UnitBinding

open Json

/-! ## Alternatives -/

namespace AccessType

/-- The name of a strategy in data is its tag. -/
theorem variant_eq_tag (a : AccessType) : a.variant = a.tag := by
  cases a <;> decide

theorem ofVariant?_eq_some_iff {name : String} {a : AccessType} :
    ofVariant? name = some a ↔ name = a.tag := by
  rw [ofVariant?, all]
  by_cases hfield : name = "field"
  · subst hfield
    cases a <;> decide
  by_cases hproperty : name = "property"
  · subst hproperty
    cases a <;> decide
  · have hnone : [field, property].find? (fun b => b.variant = name) = none := by
      simp [variant_eq_tag, tag, Ne.symm hfield, Ne.symm hproperty]
    cases a <;> simp [hnone, tag, hfield, hproperty]

theorem ofJson_str_eq_ok_iff {name : String} {a : AccessType} :
    ofJson (.str name) = .ok a ↔ name = a.tag := by
  rw [← ofVariant?_eq_some_iff, ofJson, asVariant]
  cases ofVariant? name <;> simp

theorem ofJson_toJson (a : AccessType) : ofJson a.toJson = .ok a :=
  ofJson_str_eq_ok_iff.2 a.variant_eq_tag

end AccessType

theorem AccessMode.ofJson_toJson (m : AccessMode) : ofJson m.toJson = .ok m := by
  cases m <;> rfl

/-! ## Records -/

/-- A field that holds a strategy. -/
def Json.Field.strategy {ρ : Type} (name : String) (get : ρ → AccessType) : Field ρ AccessType :=
  ⟨name, get, AccessType.toJson, AccessType.ofJson, AccessType.ofJson_toJson⟩

theorem PropertyData.strict :
    Strict ["name", "bean_name", "access_type"] PropertyData.toJson PropertyData.ofJson := by
  refine strict_of_three (.text "name" PropertyData.name) (.text "bean_name" PropertyData.beanName)
    (.strategy "access_type" PropertyData.access) PropertyData.mk (fun _ => rfl) (by decide)
    (fun _ => rfl) fun members name beanName access hname hbean haccess => ?_
  dsimp only [Field.read?, Field.text, Field.strategy] at hname hbean haccess
  rw [PropertyData.ofJson, haccess, hbean, hname]
  rfl

theorem DeclaredProperty.strict :
    Strict ["name", "access_type", "writable"] DeclaredProperty.toJson DeclaredProperty.ofJson := by
  refine strict_of_three (.text "name" DeclaredProperty.name)
    (.strategy "access_type" DeclaredProperty.access) (.flag "writable" DeclaredProperty.writable)
    DeclaredProperty.mk (fun _ => rfl) (by decide) (fun _ => rfl)
    fun members name access writable hname haccess hwritable => ?_
  dsimp only [Field.read?, Field.text, Field.strategy, Field.flag] at hname haccess hwritable
  rw [DeclaredProperty.ofJson, haccess, hname, hwritable]
  rfl

theorem StrategyRegistration.strict :
    Strict ["strategy_role", "implementation", "selector_names"] StrategyRegistration.toJson
      StrategyRegistration.ofJson := by
  refine strict_of_three (.text "strategy_role" StrategyRegistration.role)
    (.text "implementation" StrategyRegistration.implementation)
    (.texts "selector_names" StrategyRegistration.selectors) StrategyRegistration.mk (fun _ => rfl)
    (by decide) (fun _ => rfl)
    fun members role implementation selectors hrole himplementation hselectors => ?_
  dsimp only [Field.read?, Field.text, Field.texts] at hrole himplementation hselectors
  rw [StrategyRegistration.ofJson, himplementation, hselectors, hrole]
  rfl

theorem ScanResult.strict :
    Strict ["types", "packages", "mapping_files"] ScanResult.toJson ScanResult.ofJson := by
  refine strict_of_three (.texts "types" ScanResult.types) (.texts "packages" ScanResult.packages)
    (.texts "mapping_files" ScanResult.mappingFiles) ScanResult.mk (fun _ => rfl) (by decide)
    (fun _ => rfl) fun members types packages mappingFiles htypes hpackages hfiles => ?_
  dsimp only [Field.read?, Field.texts] at htypes hpackages hfiles
  rw [ScanResult.ofJson, hfiles, hpackages, htypes]
  rfl

/-! ## Sections of a configuration -/

/-- The number of files is one of sixty-four bits. -/
structure LoggingConfig.Fits (c : LoggingConfig) : Prop where
  maxFiles : c.maxFiles < 2 ^ 64

/-- The numbers are of sixty-four bits. -/
structure AccessorCacheConfig.Fits (c : AccessorCacheConfig) : Prop where
  maxCapacity : c.maxCapacity < 2 ^ 64
  timeToIdleSecs : c.timeToIdleSecs < 2 ^ 64

/-- The numbers of a configuration are of sixty-four bits. -/
structure AppConfig.Fits (c : AppConfig) : Prop where
  logging : c.logging.Fits
  accessorCache : c.accessorCache.Fits

theorem Json.asUnsigned_ofNat (name : String) {n : Nat} (h : n < 2 ^ 64) :
    asUnsigned name 64 (ofNat n) = .ok n := by
  refine (Sample.unsignedCodec_lawful name 64).decode_encode n ?_
  have hlimit : Int.pow 2 64 = 2 ^ 64 := rfl
  simp only [Sample.unsignedRange, Set.mem_ofPred_eq, hlimit]
  omega

theorem Json.asOption_asPath (text : Option String) :
    asOption asPath (ofOption .str text) = .ok (text.map RawText.ofText) := by
  cases text <;> rfl

namespace Setting

/-- All settings. -/
def all : List Setting :=
  [.level, .jsonFormat, .fileOutput, .maxFiles, .maxCapacity, .timeToIdleSecs, .installGlobal,
    .includeLinked]

/-- The keys of the settings of a section. -/
def keysIn (sectionName : String) : List String :=
  (all.filter fun s => s.sectionName = sectionName).map key

end Setting

/-- A configuration with the defaults in the place of some settings, and otherwise as it was. -/
def AppConfig.ResetTo (c : AppConfig) (gone : Setting → Prop) (found : AppConfig) : Prop :=
  ∀ s : Setting, (gone s → Setting.of found s = Setting.of {} s)
    ∧ (¬ gone s → Setting.of found s = Setting.of c s)

/-- A configuration consists of its settings. -/
theorem AppConfig.eq_of_settings {c found : AppConfig}
    (h : ∀ s, Setting.of found s = Setting.of c s) : found = c := by
  obtain ⟨⟨level, jsonFormat, fileOutput, maxFiles⟩, ⟨maxCapacity, idle, installGlobal⟩, ⟨linked⟩⟩ :=
    found
  obtain rfl : level = _ := h .level
  obtain rfl : jsonFormat = _ := h .jsonFormat
  obtain rfl : fileOutput = _ := h .fileOutput
  obtain rfl : maxFiles = _ := h .maxFiles
  obtain rfl : maxCapacity = _ := h .maxCapacity
  obtain rfl : idle = _ := h .timeToIdleSecs
  obtain rfl : installGlobal = _ := h .installGlobal
  obtain rfl : linked = _ := h .includeLinked
  rfl

/-- With nothing gone it is the configuration itself. -/
theorem AppConfig.ResetTo.eq {c found : AppConfig} {gone : Setting → Prop}
    (h : c.ResetTo gone found) (hnone : ∀ s, ¬ gone s) : found = c :=
  eq_of_settings fun s => (h s).2 (hnone s)

/-- Whether a change to the data of a section takes a setting away. -/
def Json.Edit.Removes (e : Edit) (sectionName : String) (s : Setting) : Prop :=
  s.sectionName = sectionName ∧ s.key ∈ e.removed

instance (e : Edit) (sectionName : String) (s : Setting) : Decidable (e.Removes sectionName s) :=
  inferInstanceAs (Decidable (s.sectionName = sectionName ∧ s.key ∈ e.removed))

theorem Json.Edit.not_removes_nothing (sectionName : String) (s : Setting) :
    ¬ ({} : Edit).Removes sectionName s := by
  rintro ⟨-, hkey⟩
  cases hkey

theorem AppConfig.resetTo_of_section {c found : AppConfig} {e : Edit} {sectionName : String}
    (hinside : ∀ s : Setting, s.sectionName = sectionName →
      Setting.of found s = (e.left s.key (Setting.of c s)).getD (Setting.of {} s))
    (houtside : ∀ s : Setting, s.sectionName ≠ sectionName →
      Setting.of found s = Setting.of c s) :
    c.ResetTo (e.Removes sectionName) found := by
  intro s
  by_cases hs : s.sectionName = sectionName
  · obtain ⟨hgone, hleft⟩ := e.getD_left s.key (Setting.of c s) (Setting.of {} s)
    rw [hinside s hs]
    exact ⟨fun hremoves => hgone hremoves.2, fun hstays => hleft fun hkey => hstays ⟨hs, hkey⟩⟩
  · exact ⟨fun hgone => absurd hgone.1 hs, fun _ => houtside s hs⟩

/-- A section has data exactly if its path is a text. -/
theorem LoggingConfig.exists_toJson_iff {c : LoggingConfig} :
    (∃ data, c.toJson = .ok data) ↔ c.OutputIsText := by
  rw [toJson]
  refine ⟨fun ⟨data, hdata⟩ => ?_, fun ⟨text, htext⟩ => ?_⟩
  · cases htext : c.outputText with
    | error fault =>
      rw [htext] at hdata
      cases hdata
    | ok text => exact ⟨text, outputText_eq_ok_iff.1 htext⟩
  · rw [outputText_eq_ok_iff.2 htext]
    exact ⟨_, rfl⟩

theorem LoggingConfig.toJson_of_not_text {c : LoggingConfig} (h : ¬ c.OutputIsText) :
    c.toJson = .error pathNoText := by
  rw [toJson, outputText_of_not_text h]
  rfl

theorem LoggingConfig.exists_ofJson {c : LoggingConfig} (hc : c.Fits) {data : Json}
    (hdata : c.toJson = .ok data) {e : Edit} (h : e.AddsNone (Setting.keysIn "logging")) :
    ∃ found, LoggingConfig.ofJson (e.apply data) = .ok found
      ∧ AppConfig.ResetTo { logging := c } (e.Removes "logging") { logging := found } := by
  obtain ⟨text, htext⟩ := exists_toJson_iff.1 ⟨data, hdata⟩
  rw [toJson, outputText_eq_ok_iff.2 htext] at hdata
  obtain ⟨all, hall, hlevel, hformat, houtput, hfiles⟩ : ∃ all, data = .obj all
      ∧ lookup? "level" all = some (.str c.level)
      ∧ lookup? "json_format" all = some (.bool c.jsonFormat)
      ∧ lookup? "file_output" all = some (Json.ofOption .str text)
      ∧ lookup? "max_files" all = some (Json.ofNat c.maxFiles) := by
    refine ⟨_, (Except.ok.inj hdata).symm, ?_, ?_, ?_, ?_⟩ <;> simp [lookup?_insertMember]
  have hlevel := Edit.field?_members h (by decide) hlevel (rfl : asString _ = .ok c.level)
  have hformat := Edit.field?_members h (by decide) hformat (rfl : asBool _ = .ok c.jsonFormat)
  have houtput := Edit.field?_members h (by decide) houtput (asOption_asPath text)
  have hfiles := Edit.field?_members h (by decide) hfiles (asUnsigned_ofNat "usize" hc.maxFiles)
  rw [hall, Edit.apply, LoggingConfig.ofJson, houtput, hformat, hlevel, hfiles, ← htext]
  refine ⟨_, rfl, AppConfig.resetTo_of_section (fun s hs => ?_) fun s hs => ?_⟩
  · cases s with
    | level | jsonFormat | fileOutput | maxFiles => rfl
    | maxCapacity | timeToIdleSecs | installGlobal | includeLinked => exact absurd hs (by decide)
  · cases s with
    | level | jsonFormat | fileOutput | maxFiles => exact absurd rfl hs
    | maxCapacity | timeToIdleSecs | installGlobal | includeLinked => rfl

theorem AccessorCacheConfig.exists_ofJson {c : AccessorCacheConfig} (hc : c.Fits) {e : Edit}
    (h : e.AddsNone (Setting.keysIn "accessor_cache")) :
    ∃ found, AccessorCacheConfig.ofJson (e.apply c.toJson) = .ok found
      ∧ AppConfig.ResetTo { accessorCache := c } (e.Removes "accessor_cache")
        { accessorCache := found } := by
  obtain ⟨all, hall, hcapacity, hidle, hglobal⟩ : ∃ all, c.toJson = .obj all
      ∧ lookup? "max_capacity" all = some (Json.ofNat c.maxCapacity)
      ∧ lookup? "time_to_idle_secs" all = some (Json.ofNat c.timeToIdleSecs)
      ∧ lookup? "install_global" all = some (.bool c.installGlobal) := by
    refine ⟨_, rfl, ?_, ?_, ?_⟩ <;> simp [lookup?_insertMember]
  have hcapacity := Edit.field?_members h (by decide) hcapacity (asUnsigned_ofNat "u64" hc.maxCapacity)
  have hidle := Edit.field?_members h (by decide) hidle (asUnsigned_ofNat "u64" hc.timeToIdleSecs)
  have hglobal := Edit.field?_members h (by decide) hglobal (rfl : asBool _ = .ok c.installGlobal)
  rw [hall, Edit.apply, AccessorCacheConfig.ofJson, hglobal, hcapacity, hidle]
  refine ⟨_, rfl, AppConfig.resetTo_of_section (fun s hs => ?_) fun s hs => ?_⟩
  · cases s with
    | maxCapacity | timeToIdleSecs | installGlobal => rfl
    | level | jsonFormat | fileOutput | maxFiles | includeLinked => exact absurd hs (by decide)
  · cases s with
    | maxCapacity | timeToIdleSecs | installGlobal => exact absurd rfl hs
    | level | jsonFormat | fileOutput | maxFiles | includeLinked => rfl

theorem DiscoveryConfig.exists_ofJson (c : DiscoveryConfig) {e : Edit}
    (h : e.AddsNone (Setting.keysIn "discovery")) :
    ∃ found, DiscoveryConfig.ofJson (e.apply c.toJson) = .ok found
      ∧ AppConfig.ResetTo { discovery := c } (e.Removes "discovery") { discovery := found } := by
  obtain ⟨all, hall, hlinked⟩ : ∃ all, c.toJson = .obj all
      ∧ lookup? "include_linked" all = some (.bool c.includeLinked) :=
    ⟨_, rfl, by simp [lookup?_insertMember]⟩
  have hlinked := Edit.field?_members h (by decide) hlinked (rfl : asBool _ = .ok c.includeLinked)
  rw [hall, Edit.apply, DiscoveryConfig.ofJson, hlinked]
  refine ⟨_, rfl, AppConfig.resetTo_of_section (fun s hs => ?_) fun s hs => ?_⟩
  · cases s with
    | includeLinked => rfl
    | level | jsonFormat | fileOutput | maxFiles | maxCapacity | timeToIdleSecs | installGlobal =>
      exact absurd hs (by decide)
  · cases s with
    | includeLinked => exact absurd rfl hs
    | level | jsonFormat | fileOutput | maxFiles | maxCapacity | timeToIdleSecs | installGlobal => rfl

theorem LoggingConfig.ofJson_toJson {c : LoggingConfig} (hc : c.Fits) {data : Json}
    (hdata : c.toJson = .ok data) : ofJson data = .ok c := by
  obtain ⟨found, hfound, hreset⟩ := exists_ofJson hc hdata (Edit.addsNone_nothing _)
  obtain rfl : found = c := congrArg AppConfig.logging (hreset.eq (Edit.not_removes_nothing _))
  rwa [Edit.apply_nothing] at hfound

theorem AccessorCacheConfig.ofJson_toJson {c : AccessorCacheConfig} (hc : c.Fits) :
    ofJson c.toJson = .ok c := by
  obtain ⟨found, hfound, hreset⟩ := exists_ofJson hc (Edit.addsNone_nothing _)
  obtain rfl : found = c := congrArg AppConfig.accessorCache (hreset.eq (Edit.not_removes_nothing _))
  rwa [Edit.apply_nothing] at hfound

theorem DiscoveryConfig.ofJson_toJson (c : DiscoveryConfig) : ofJson c.toJson = .ok c := by
  obtain ⟨found, hfound, hreset⟩ := exists_ofJson c (Edit.addsNone_nothing _)
  obtain rfl : found = c := congrArg AppConfig.discovery (hreset.eq (Edit.not_removes_nothing _))
  rwa [Edit.apply_nothing] at hfound

/-! ## The whole configuration -/

/-- The names of the sections. -/
def sectionNames : List String := ["logging", "accessor_cache", "discovery"]

/-- Changes to the data of a configuration. -/
structure ConfigEdit where
  /-- The changes to the configuration: whole sections are taken away, or further members put in. -/
  outside : Edit := {}
  /-- The changes to the section with a name. -/
  inside : String → Edit := fun _ => {}

namespace ConfigEdit

/-- The data after the changes. -/
def apply (e : ConfigEdit) : Json → Json
  | .obj members => e.outside.apply (.obj (members.map fun m => (m.1, (e.inside m.1).apply m.2)))
  | value => value

/-- Nothing is put in under the name of a section, nor under the key of a setting in its section. -/
def AddsNone (e : ConfigEdit) : Prop :=
  e.outside.AddsNone sectionNames
    ∧ ∀ name ∈ sectionNames, (e.inside name).AddsNone (Setting.keysIn name)

instance (e : ConfigEdit) : Decidable e.AddsNone :=
  inferInstanceAs (Decidable (e.outside.AddsNone sectionNames
    ∧ ∀ name ∈ sectionNames, (e.inside name).AddsNone (Setting.keysIn name)))

/-- A setting is taken away, by itself or with its section. -/
def Removes (e : ConfigEdit) (s : Setting) : Prop :=
  s.sectionName ∈ e.outside.removed ∨ s.key ∈ (e.inside s.sectionName).removed

instance (e : ConfigEdit) (s : Setting) : Decidable (e.Removes s) :=
  inferInstanceAs (Decidable
    (s.sectionName ∈ e.outside.removed ∨ s.key ∈ (e.inside s.sectionName).removed))

theorem apply_nothing (value : Json) : ({} : ConfigEdit).apply value = value := by
  cases value with
  | obj all =>
    have hall : (all.map fun m => (m.1, ({} : Edit).apply m.2)) = all := by
      simp [Edit.apply_nothing]
    rw [apply, hall, Edit.apply_nothing]
  | _ => rfl

theorem addsNone_nothing : ({} : ConfigEdit).AddsNone :=
  ⟨Edit.addsNone_nothing _, fun _ _ => Edit.addsNone_nothing _⟩

theorem not_removes_nothing (s : Setting) : ¬ ({} : ConfigEdit).Removes s := by
  rintro (hsection | hkey)
  · cases hsection
  · cases hkey

/-- A section that was changed in itself may be gone altogether. -/
theorem reset_of_section {α : Type} (e : ConfigEdit) (place : α → AppConfig) {standard : α}
    (hstandard : place standard = {}) {c found : α} {sectionName : String}
    (hreset : (place c).ResetTo ((e.inside sectionName).Removes sectionName) (place found))
    {s : Setting} (hs : s.sectionName = sectionName) :
    let read := place ((e.outside.left sectionName found).getD standard)
    (e.Removes s → Setting.of read s = Setting.of {} s)
      ∧ (¬ e.Removes s → Setting.of read s = Setting.of (place c) s) := by
  subst hs
  obtain ⟨hgone, hleft⟩ := e.outside.getD_left s.sectionName found standard
  by_cases hsection : s.sectionName ∈ e.outside.removed
  · refine ⟨fun _ => ?_, fun hnot => absurd (Or.inl hsection) hnot⟩
    rw [hgone hsection, hstandard]
  · rw [hleft hsection]
    refine ⟨fun h => (hreset s).1 ⟨rfl, h.resolve_left hsection⟩, fun h => (hreset s).2 ?_⟩
    exact fun hkey => h (Or.inr hkey.2)

end ConfigEdit

/-- A configuration has data exactly if its path is a text. -/
theorem AppConfig.exists_toJson_iff {c : AppConfig} :
    (∃ data, c.toJson = .ok data) ↔ c.logging.OutputIsText := by
  rw [← LoggingConfig.exists_toJson_iff, toJson]
  refine ⟨fun ⟨data, hdata⟩ => ?_, fun ⟨part, hpart⟩ => ?_⟩
  · cases hpart : c.logging.toJson with
    | error fault =>
      rw [hpart] at hdata
      cases hdata
    | ok part => exact ⟨part, rfl⟩
  · rw [hpart]
    exact ⟨_, rfl⟩

theorem AppConfig.toJson_of_not_text {c : AppConfig} (h : ¬ c.logging.OutputIsText) :
    c.toJson = .error pathNoText := by
  rw [toJson, LoggingConfig.toJson_of_not_text h]
  rfl

/-- **A configuration is read from what is left of its data.** -/
theorem AppConfig.exists_ofJson {c : AppConfig} (hc : c.Fits) {data : Json}
    (hdata : c.toJson = .ok data) {e : ConfigEdit} (h : e.AddsNone) :
    ∃ found, AppConfig.ofJson (e.apply data) = .ok found ∧ c.ResetTo e.Removes found := by
  obtain ⟨part, hpart⟩ := LoggingConfig.exists_toJson_iff.2 (exists_toJson_iff.1 ⟨data, hdata⟩)
  obtain ⟨logging, hlogging, hloggingReset⟩ :=
    LoggingConfig.exists_ofJson hc.logging hpart (h.2 "logging" (by decide))
  obtain ⟨cache, hcache, hcacheReset⟩ :=
    AccessorCacheConfig.exists_ofJson hc.accessorCache (h.2 "accessor_cache" (by decide))
  obtain ⟨discovery, hdiscovery, hdiscoveryReset⟩ :=
    DiscoveryConfig.exists_ofJson c.discovery (h.2 "discovery" (by decide))
  rw [toJson, hpart] at hdata
  obtain ⟨all, hall, hinLogging, hinCache, hinDiscovery⟩ :
      ∃ all, e.apply data = e.outside.apply (.obj all)
        ∧ lookup? "logging" all = some ((e.inside "logging").apply part)
        ∧ lookup? "accessor_cache" all
          = some ((e.inside "accessor_cache").apply c.accessorCache.toJson)
        ∧ lookup? "discovery" all = some ((e.inside "discovery").apply c.discovery.toJson) := by
    obtain rfl := Except.ok.inj hdata
    refine ⟨_, rfl, ?_, ?_, ?_⟩ <;>
      simp [lookup?_map fun name => (e.inside name).apply, lookup?_insertMember]
  have hlogging := Edit.field?_members h.1 (by decide) hinLogging hlogging
  have hcache := Edit.field?_members h.1 (by decide) hinCache hcache
  have hdiscovery := Edit.field?_members h.1 (by decide) hinDiscovery hdiscovery
  rw [hall, Edit.apply, AppConfig.ofJson, hcache, hdiscovery, hlogging]
  refine ⟨_, rfl, fun s => ?_⟩
  cases s with
  | level | jsonFormat | fileOutput | maxFiles =>
    exact e.reset_of_section (fun part => { logging := part }) rfl hloggingReset rfl
  | maxCapacity | timeToIdleSecs | installGlobal =>
    exact e.reset_of_section (fun part => { accessorCache := part }) rfl hcacheReset rfl
  | includeLinked =>
    exact e.reset_of_section (fun part => { discovery := part }) rfl hdiscoveryReset rfl

theorem AppConfig.ofJson_toJson {c : AppConfig} (hc : c.Fits) {data : Json}
    (hdata : c.toJson = .ok data) : ofJson data = .ok c := by
  obtain ⟨found, hfound, hreset⟩ := exists_ofJson hc hdata ConfigEdit.addsNone_nothing
  obtain rfl : found = c := hreset.eq ConfigEdit.not_removes_nothing
  rwa [ConfigEdit.apply_nothing] at hfound

/-! ## All forms -/

/-- A text is taken for a strategy in data exactly if it is taken for one as a tag, which is if it is
    how the strategy is shown. -/
theorem AccessType.spellings_agree (text : String) (a : AccessType) :
    (ofJson (.str text) = .ok a ↔ PropertyRequest.parseTag text = .ok a)
      ∧ (PropertyRequest.parseTag text = .ok a ↔ text = a.tag) := by
  have hparse : PropertyRequest.parseTag text = .ok a ↔ text = a.tag := by
    rw [← ofTag?_eq_some_iff, PropertyRequest.parseTag]
    cases ofTag? text <;> simp
  exact ⟨ofJson_str_eq_ok_iff.trans hparse.symm, hparse⟩

/-- **Data forms are read back.** Take any value of one of the ten types, where a number has sixty-four
    bits.

    * It has data unless it is a configuration, or its section on logging, with a path that is no text:
      that cannot be written.
    * Its data gives the value, also if further members are put in at the level of any record, under
      names that the record does not know.
    * A record without defaults is refused if fields were taken away, and the first of them is named as
      missing.
    * A section is read if settings were taken away, and a configuration also if whole sections were;
      exactly what is gone has its default.
    * A text is read as a strategy exactly if it is parsed as one, which is if the strategy is shown so. -/
theorem data_forms_read_back :
    (∀ a : AccessType, AccessType.ofJson a.toJson = .ok a)
      ∧ (∀ m : AccessMode, AccessMode.ofJson m.toJson = .ok m)
      ∧ Strict ["name", "bean_name", "access_type"] PropertyData.toJson PropertyData.ofJson
      ∧ Strict ["name", "access_type", "writable"] DeclaredProperty.toJson DeclaredProperty.ofJson
      ∧ Strict ["strategy_role", "implementation", "selector_names"] StrategyRegistration.toJson
        StrategyRegistration.ofJson
      ∧ Strict ["types", "packages", "mapping_files"] ScanResult.toJson ScanResult.ofJson
      ∧ (∀ c : LoggingConfig, c.Fits → c.OutputIsText → ∃ data, c.toJson = .ok data
        ∧ LoggingConfig.ofJson data = .ok c
        ∧ ∀ e : Edit, e.AddsNone (Setting.keysIn "logging") →
          ∃ found, LoggingConfig.ofJson (e.apply data) = .ok found
            ∧ AppConfig.ResetTo { logging := c } (e.Removes "logging") { logging := found }
            ∧ ((∀ s, ¬ e.Removes "logging" s) → found = c))
      ∧ (∀ c : LoggingConfig, ¬ c.OutputIsText → c.toJson = .error pathNoText)
      ∧ (∀ c : AccessorCacheConfig, c.Fits → AccessorCacheConfig.ofJson c.toJson = .ok c
        ∧ ∀ e : Edit, e.AddsNone (Setting.keysIn "accessor_cache") →
          ∃ found, AccessorCacheConfig.ofJson (e.apply c.toJson) = .ok found
            ∧ AppConfig.ResetTo { accessorCache := c } (e.Removes "accessor_cache")
              { accessorCache := found }
            ∧ ((∀ s, ¬ e.Removes "accessor_cache" s) → found = c))
      ∧ (∀ c : DiscoveryConfig, DiscoveryConfig.ofJson c.toJson = .ok c
        ∧ ∀ e : Edit, e.AddsNone (Setting.keysIn "discovery") →
          ∃ found, DiscoveryConfig.ofJson (e.apply c.toJson) = .ok found
            ∧ AppConfig.ResetTo { discovery := c } (e.Removes "discovery") { discovery := found }
            ∧ ((∀ s, ¬ e.Removes "discovery" s) → found = c))
      ∧ (∀ c : AppConfig, c.Fits → c.logging.OutputIsText → ∃ data, c.toJson = .ok data
        ∧ AppConfig.ofJson data = .ok c
        ∧ ∀ e : ConfigEdit, e.AddsNone →
          ∃ found, AppConfig.ofJson (e.apply data) = .ok found
            ∧ c.ResetTo e.Removes found
            ∧ ((∀ s, ¬ e.Removes s) → found = c))
      ∧ (∀ c : AppConfig, ¬ c.logging.OutputIsText → c.toJson = .error pathNoText)
      ∧ ∀ (text : String) (a : AccessType),
        (AccessType.ofJson (.str text) = .ok a ↔ PropertyRequest.parseTag text = .ok a)
          ∧ (PropertyRequest.parseTag text = .ok a ↔ text = a.tag) := by
  refine ⟨AccessType.ofJson_toJson, AccessMode.ofJson_toJson, PropertyData.strict,
    DeclaredProperty.strict, StrategyRegistration.strict, ScanResult.strict, fun c hc htext => ?_,
    fun c => LoggingConfig.toJson_of_not_text,
    fun c hc => ⟨AccessorCacheConfig.ofJson_toJson hc, fun e he => ?_⟩,
    fun c => ⟨DiscoveryConfig.ofJson_toJson c, fun e he => ?_⟩, fun c hc htext => ?_,
    fun c => AppConfig.toJson_of_not_text, AccessType.spellings_agree⟩
  · obtain ⟨data, hdata⟩ := LoggingConfig.exists_toJson_iff.2 htext
    refine ⟨data, hdata, LoggingConfig.ofJson_toJson hc hdata, fun e he => ?_⟩
    obtain ⟨found, hfound, hreset⟩ := LoggingConfig.exists_ofJson hc hdata he
    exact ⟨found, hfound, hreset, fun hnone => congrArg AppConfig.logging (hreset.eq hnone)⟩
  · obtain ⟨found, hfound, hreset⟩ := AccessorCacheConfig.exists_ofJson hc he
    exact ⟨found, hfound, hreset, fun hnone => congrArg AppConfig.accessorCache (hreset.eq hnone)⟩
  · obtain ⟨found, hfound, hreset⟩ := DiscoveryConfig.exists_ofJson c he
    exact ⟨found, hfound, hreset, fun hnone => congrArg AppConfig.discovery (hreset.eq hnone)⟩
  · obtain ⟨data, hdata⟩ := AppConfig.exists_toJson_iff.2 htext
    refine ⟨data, hdata, AppConfig.ofJson_toJson hc hdata, fun e he => ?_⟩
    obtain ⟨found, hfound, hreset⟩ := AppConfig.exists_ofJson hc hdata he
    exact ⟨found, hfound, hreset, hreset.eq⟩

/-- A configuration whose log file has a name of one byte that is no text. -/
def brokenPathConfig : AppConfig := { logging := { fileOutput := some ⟨[0xff]⟩ } }

theorem brokenPathConfig_fits : brokenPathConfig.Fits :=
  ⟨⟨by decide⟩, ⟨by decide, by decide⟩⟩

theorem brokenPathConfig_not_text : ¬ brokenPathConfig.logging.OutputIsText := by
  rintro ⟨text, htext⟩
  cases text with
  | none => cases htext
  | some s =>
    have hread : (⟨[0xff]⟩ : RawText).text? = some s :=
      RawText.text?_eq_some_iff.2 (Option.some.inj htext)
    have hbroken : (⟨[0xff]⟩ : RawText).text? = none := by decide
    rw [hbroken] at hread
    cases hread

/-- A configuration may have no data to be read back, and its section on logging neither. -/
theorem data_forms_lacking :
    (¬ ∀ c : LoggingConfig, c.Fits →
        ∃ data, c.toJson = .ok data ∧ LoggingConfig.ofJson data = .ok c)
      ∧ ¬ ∀ c : AppConfig, c.Fits → ∃ data, c.toJson = .ok data ∧ AppConfig.ofJson data = .ok c := by
  refine ⟨fun h => ?_, fun h => ?_⟩
  · obtain ⟨data, hdata, -⟩ := h _ brokenPathConfig_fits.logging
    exact brokenPathConfig_not_text (LoggingConfig.exists_toJson_iff.1 ⟨data, hdata⟩)
  · obtain ⟨data, hdata, -⟩ := h _ brokenPathConfig_fits
    exact brokenPathConfig_not_text (AppConfig.exists_toJson_iff.1 ⟨data, hdata⟩)

/-- A description with a name that nobody knows, without two of its fields. -/
def unknownRole : Edit := { removed := ["access_type", "bean_name"], added := [("role", .null)] }

/-- A configuration with the largest numbers and without any default. -/
def largestConfig : AppConfig :=
  { logging :=
      { level := "warn", jsonFormat := true, fileOutput := some (.ofText "a\\b")
        maxFiles := 2 ^ 64 - 1 }
    accessorCache := { maxCapacity := 2 ^ 64 - 1, timeToIdleSecs := 2 ^ 64 - 1, installGlobal := false }
    discovery := { includeLinked := false } }

/-- One section is gone, and another one has lost two settings; the keys that come in are those of other
    sections. -/
def misplacingEdit : ConfigEdit :=
  { outside := { removed := ["discovery"], added := [("level", .str "trace")] }
    inside := fun name =>
      if name = "logging" then
        { removed := ["level", "file_output"], added := [("include_linked", .null)] }
      else { added := [("logging", .obj [])] } }

/-- Exactly what is gone has its default, and a path that is no text is not written. -/
theorem data_forms_read_back_partly :
    unknownRole.AddsNone ["name", "bean_name", "access_type"] ∧ largestConfig.Fits
      ∧ misplacingEdit.AddsNone
      ∧ PropertyData.ofJson (unknownRole.apply (PropertyData.toJson ⟨"total", "sum", .field⟩))
        = .error (.missingField "bean_name")
      ∧ (∃ data, largestConfig.logging.toJson = .ok data
        ∧ LoggingConfig.ofJson ((misplacingEdit.inside "logging").apply data)
          = .ok { jsonFormat := true, maxFiles := 2 ^ 64 - 1 })
      ∧ (∃ data, largestConfig.toJson = .ok data
        ∧ AppConfig.ofJson (misplacingEdit.apply data) = .ok { largestConfig with
          logging := { jsonFormat := true, maxFiles := 2 ^ 64 - 1 }, discovery := {} })
      ∧ brokenPathConfig.toJson = .error pathNoText
      ∧ AccessType.ofJson (.str "Field") ≠ .ok .field := by
  obtain ⟨-, -, hproperty, -, -, -, hlogging, -, -, -, hconfig, hbroken, hspelling⟩ :=
    data_forms_read_back
  have hrole : unknownRole.AddsNone ["name", "bean_name", "access_type"] := by decide
  have hfits : largestConfig.Fits := ⟨⟨by decide⟩, ⟨by decide, by decide⟩⟩
  have htext : largestConfig.logging.OutputIsText := ⟨some "a\\b", rfl⟩
  have hadds : misplacingEdit.AddsNone := by decide
  obtain ⟨loggingData, hloggingData, -, hparts⟩ := hlogging _ hfits.logging htext
  obtain ⟨part, hpart, hpartReset, -⟩ := hparts (misplacingEdit.inside "logging") (by decide)
  obtain ⟨data, hdata, -, hwhole⟩ := hconfig _ hfits htext
  obtain ⟨found, hfound, hreset, -⟩ := hwhole misplacingEdit hadds
  have hread : ({ logging := part } : AppConfig)
      = { logging := { jsonFormat := true, maxFiles := 2 ^ 64 - 1 } } := by
    refine AppConfig.eq_of_settings fun s => ?_
    cases s with
    | level | fileOutput => exact (hpartReset _).1 (by decide)
    | jsonFormat | maxFiles | maxCapacity | timeToIdleSecs | installGlobal | includeLinked =>
      exact (hpartReset _).2 (by decide)
  refine ⟨hrole, hfits, hadds, (hproperty.changed _ unknownRole hrole).trans rfl,
    ⟨loggingData, hloggingData, hpart.trans (congrArg (Except.ok ∘ AppConfig.logging) hread)⟩,
    ⟨data, hdata, hfound.trans (congrArg Except.ok ?_)⟩, hbroken _ brokenPathConfig_not_text, ?_⟩
  · refine AppConfig.eq_of_settings fun s => ?_
    cases s with
    | level | fileOutput | includeLinked => exact (hreset _).1 (by decide)
    | jsonFormat | maxFiles | maxCapacity | timeToIdleSecs | installGlobal =>
      exact (hreset _).2 (by decide)
  · intro hfield
    have htag := (hspelling "Field" .field).2.1 ((hspelling "Field" .field).1.1 hfield)
    exact absurd htag (by decide)

end UnitBinding
