import UnitBinding.AccessorCache
import UnitBinding.Logging.Level
import UnitBinding.Text.Raw

set_option autoImplicit false

/-! # Configuration

Three sections say how to log, how large the accessor cache is, and which contributions to discover.
Every setting has a default, so an absent setting, and an absent section, reads as its default.
`AppConfig.validate` refuses the configurations that cannot be started. -/

namespace UnitBinding

/-! ## Sections -/

/-- How events are logged. -/
structure LoggingConfig where
  /-- The name of the least severity to log. -/
  level : String := "info"
  /-- Whether events are written as records rather than as lines. -/
  jsonFormat : Bool := false
  /-- A file to log to besides the standard output. -/
  fileOutput : Option RawText := none
  /-- How many daily files to keep. -/
  maxFiles : Nat := 5
  deriving DecidableEq, Inhabited

/-- The size of the accessor cache. -/
structure AccessorCacheConfig where
  /-- Entries per map. -/
  maxCapacity : Nat := defaultCapacity
  /-- Seconds until an unused entry may be dropped; zero stands for never. -/
  timeToIdleSecs : Nat := defaultIdleSeconds
  /-- Whether the cache becomes the one of the process. -/
  installGlobal : Bool := true
  deriving DecidableEq, Inhabited

/-- Which contributions are discovered. -/
structure DiscoveryConfig where
  /-- Whether linked contributions follow the registered ones. -/
  includeLinked : Bool := true
  deriving DecidableEq, Inhabited

/-- The whole configuration. -/
structure AppConfig where
  logging : LoggingConfig := {}
  accessorCache : AccessorCacheConfig := {}
  discovery : DiscoveryConfig := {}
  deriving DecidableEq, Inhabited

/-- The idle time in seconds, if entries idle out at all. -/
def AccessorCacheConfig.timeToIdle (c : AccessorCacheConfig) : Option Nat :=
  if c.timeToIdleSecs = 0 then none else some c.timeToIdleSecs

/-! ## Data values -/

/-- What is written, or why it cannot be. -/
abbrev Encoded (α : Type) := Except String α

/-- Why a path that is no text is not written. -/
def pathNoText : String := "path contains invalid UTF-8 characters"

/-- The text that a path is written as. -/
def encodePath (path : RawText) : Encoded String :=
  match path.text? with
  | some text => .ok text
  | none => .error pathNoText

theorem encodePath_eq_ok_iff {path : RawText} {text : String} :
    encodePath path = .ok text ↔ path = .ofText text := by
  rw [← RawText.text?_eq_some_iff, encodePath]
  cases path.text? <;> simp

namespace LoggingConfig

/-- The path of the log file as a text, if there is a path. -/
def outputText (c : LoggingConfig) : Encoded (Option String) :=
  match c.fileOutput with
  | none => .ok none
  | some path => (encodePath path).map some

/-- The path of the log file, if there is one, is a text. -/
def OutputIsText (c : LoggingConfig) : Prop :=
  ∃ text : Option String, c.fileOutput = text.map RawText.ofText

/-- The path as a text is the one whose bytes the path is … -/
theorem outputText_eq_ok_iff {c : LoggingConfig} {text : Option String} :
    c.outputText = .ok text ↔ c.fileOutput = text.map RawText.ofText := by
  rw [outputText]
  cases c.fileOutput with
  | none => cases text <;> simp
  | some path =>
    cases text with
    | none => cases hpath : encodePath path <;> simp [hpath, Except.map]
    | some s =>
      rw [Option.map_some, Option.some_inj, ← encodePath_eq_ok_iff]
      cases hpath : encodePath path <;> simp [hpath, Except.map]

/-- … and there is none if the path is no text. -/
theorem outputText_of_not_text {c : LoggingConfig} (h : ¬ c.OutputIsText) :
    c.outputText = .error pathNoText := by
  rw [outputText]
  cases hpath : c.fileOutput with
  | none => exact absurd ⟨none, hpath⟩ h
  | some path =>
    cases htext : path.text? with
    | none => simp [encodePath, htext, Except.map]
    | some s => exact absurd ⟨some s, by rw [hpath, RawText.eq_ofText_of_text? htext]; rfl⟩ h

/-- The section as a data value. -/
def toJson (c : LoggingConfig) : Encoded Json := do
  let fileOutput ← c.outputText
  return Json.ofMembers
    [("level", .str c.level), ("json_format", .bool c.jsonFormat),
      ("file_output", Json.ofOption .str fileOutput), ("max_files", Json.ofNat c.maxFiles)]

/-- The section from a data value. -/
def ofJson : Json → Decoded LoggingConfig
  | .obj members => do
    let fileOutput ← Json.field? members "file_output" (Json.asOption Json.asPath)
    let jsonFormat ← Json.field? members "json_format" Json.asBool
    let level ← Json.field? members "level" Json.asString
    let maxFiles ← Json.field? members "max_files" (Json.asUnsigned "usize" 64)
    let d : LoggingConfig := {}
    return ⟨level.getD d.level, jsonFormat.getD d.jsonFormat, fileOutput.getD d.fileOutput,
      maxFiles.getD d.maxFiles⟩
  | .arr elements => do
    let d : LoggingConfig := {}
    let level ← Json.elementOr elements 0 d.level Json.asString
    let jsonFormat ← Json.elementOr elements 1 d.jsonFormat Json.asBool
    let fileOutput ← Json.elementOr elements 2 d.fileOutput (Json.asOption Json.asPath)
    let maxFiles ← Json.elementOr elements 3 d.maxFiles (Json.asUnsigned "usize" 64)
    Json.atMost 4 elements
    return ⟨level, jsonFormat, fileOutput, maxFiles⟩
  | value => value.mistyped "struct LoggingConfig"

/-- The form that diagnostics show. -/
def debug (c : LoggingConfig) : String :=
  let fileOutput := match c.fileOutput with
    | none => "None"
    | some path => "Some(" ++ path.quotedPath ++ ")"
  "LoggingConfig \x7b level: " ++ Text.quoted c.level ++ ", json_format: " ++ toString c.jsonFormat
    ++ ", file_output: " ++ fileOutput ++ ", max_files: " ++ toString c.maxFiles ++ " \x7d"

end LoggingConfig

namespace AccessorCacheConfig

/-- The section as a data value. -/
def toJson (c : AccessorCacheConfig) : Json :=
  Json.ofMembers
    [("max_capacity", Json.ofNat c.maxCapacity),
      ("time_to_idle_secs", Json.ofNat c.timeToIdleSecs),
      ("install_global", .bool c.installGlobal)]

/-- The section from a data value. -/
def ofJson : Json → Decoded AccessorCacheConfig
  | .obj members => do
    let installGlobal ← Json.field? members "install_global" Json.asBool
    let maxCapacity ← Json.field? members "max_capacity" (Json.asUnsigned "u64" 64)
    let timeToIdleSecs ← Json.field? members "time_to_idle_secs" (Json.asUnsigned "u64" 64)
    let d : AccessorCacheConfig := {}
    return ⟨maxCapacity.getD d.maxCapacity, timeToIdleSecs.getD d.timeToIdleSecs,
      installGlobal.getD d.installGlobal⟩
  | .arr elements => do
    let d : AccessorCacheConfig := {}
    let maxCapacity ← Json.elementOr elements 0 d.maxCapacity (Json.asUnsigned "u64" 64)
    let timeToIdleSecs ← Json.elementOr elements 1 d.timeToIdleSecs (Json.asUnsigned "u64" 64)
    let installGlobal ← Json.elementOr elements 2 d.installGlobal Json.asBool
    Json.atMost 3 elements
    return ⟨maxCapacity, timeToIdleSecs, installGlobal⟩
  | value => value.mistyped "struct AccessorCacheConfig"

/-- The form that diagnostics show. -/
def debug (c : AccessorCacheConfig) : String :=
  "AccessorCacheConfig \x7b max_capacity: " ++ toString c.maxCapacity ++ ", time_to_idle_secs: "
    ++ toString c.timeToIdleSecs ++ ", install_global: " ++ toString c.installGlobal ++ " \x7d"

end AccessorCacheConfig

namespace DiscoveryConfig

/-- The section as a data value. -/
def toJson (c : DiscoveryConfig) : Json :=
  Json.ofMembers [("include_linked", .bool c.includeLinked)]

/-- The section from a data value. -/
def ofJson : Json → Decoded DiscoveryConfig
  | .obj members => do
    let includeLinked ← Json.field? members "include_linked" Json.asBool
    let d : DiscoveryConfig := {}
    return ⟨includeLinked.getD d.includeLinked⟩
  | .arr elements => do
    let d : DiscoveryConfig := {}
    let includeLinked ← Json.elementOr elements 0 d.includeLinked Json.asBool
    Json.atMost 1 elements
    return ⟨includeLinked⟩
  | value => value.mistyped "struct DiscoveryConfig"

/-- The form that diagnostics show. -/
def debug (c : DiscoveryConfig) : String :=
  "DiscoveryConfig \x7b include_linked: " ++ toString c.includeLinked ++ " \x7d"

end DiscoveryConfig

namespace AppConfig

/-- The configuration as a data value. -/
def toJson (c : AppConfig) : Encoded Json := do
  let logging ← c.logging.toJson
  return Json.ofMembers
    [("logging", logging), ("accessor_cache", c.accessorCache.toJson),
      ("discovery", c.discovery.toJson)]

/-- The configuration from a data value. -/
def ofJson : Json → Decoded AppConfig
  | .obj members => do
    let accessorCache ← Json.field? members "accessor_cache" AccessorCacheConfig.ofJson
    let discovery ← Json.field? members "discovery" DiscoveryConfig.ofJson
    let logging ← Json.field? members "logging" LoggingConfig.ofJson
    return ⟨logging.getD {}, accessorCache.getD {}, discovery.getD {}⟩
  | .arr elements => do
    let logging ← Json.elementOr elements 0 {} LoggingConfig.ofJson
    let accessorCache ← Json.elementOr elements 1 {} AccessorCacheConfig.ofJson
    let discovery ← Json.elementOr elements 2 {} DiscoveryConfig.ofJson
    Json.atMost 3 elements
    return ⟨logging, accessorCache, discovery⟩
  | value => value.mistyped "struct AppConfig"

/-- The form that diagnostics show. -/
def debug (c : AppConfig) : String :=
  "AppConfig \x7b logging: " ++ c.logging.debug ++ ", accessor_cache: " ++ c.accessorCache.debug
    ++ ", discovery: " ++ c.discovery.debug ++ " \x7d"

/-! ## Validation -/

/-- The error for a cache that holds nothing. -/
def noCapacity : Error := .configuration "Accessor cache capacity cannot be 0" .none

/-- The error for a log that keeps no file. -/
def noLogFiles : Error :=
  .configuration "Maximum log files cannot be 0 when file output is enabled" .none

/-- Whether the configuration can be started; the first fault counts. -/
def validate (c : AppConfig) : Except Error Unit :=
  match LogLevel.parse c.logging.level with
  | .error err => .error err
  | .ok _ =>
    if c.accessorCache.maxCapacity = 0 then .error noCapacity
    else if c.logging.fileOutput.isSome && c.logging.maxFiles = 0 then .error noLogFiles
    else .ok ()

end AppConfig

end UnitBinding
