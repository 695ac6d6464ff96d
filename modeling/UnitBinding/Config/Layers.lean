import UnitBinding.Config.Basic
import UnitBinding.Config.Value

set_option autoImplicit false

/-! # Layers of configuration

Sources lie over each other in layers: where two of them have a table under one key, the tables are
joined, and everywhere else the upper one counts. A `ConfigTree` is the result, its tables opened up and
every value with its origin. `AppConfig.ofTree` reads the settings out of it, keys without a setting
having no influence and absent settings having their defaults. -/

namespace UnitBinding

/-! ## Trees -/

/-- Values of several sources. -/
inductive ConfigTree where
  | leaf (origin : Origin) (value : ConfigValue)
  | table (origin : Origin) (members : List (String × ConfigTree))
  deriving Inhabited

namespace ConfigTree

/-- A tree without members. -/
def empty (origin : Origin) : ConfigTree := .table origin []

mutual

/-- The values of one source. -/
def ofValue (origin : Origin) : ConfigValue → ConfigTree
  | .table members => .table origin (ofMembers origin members)
  | .bool b => .leaf origin (.bool b)
  | .signed i => .leaf origin (.signed i)
  | .unsigned n => .leaf origin (.unsigned n)
  | .float x => .leaf origin (.float x)
  | .str s => .leaf origin (.str s)
  | .list elements => .leaf origin (.list elements)

/-- The members of a table of one source. -/
def ofMembers (origin : Origin) : List (String × ConfigValue) → List (String × ConfigTree)
  | [] => []
  | (key, value) :: rest => (key, ofValue origin value) :: ofMembers origin rest

end

mutual

/-- The second tree over the first. -/
def overlay (lower : ConfigTree) : ConfigTree → ConfigTree
  | .leaf origin value => .leaf origin value
  | .table origin members =>
    match lower with
    | .leaf _ _ => .table origin members
    | .table _ below => .table origin (overlayMembers below members)

/-- The members of an upper table over those of a lower one. -/
def overlayMembers (below : List (String × ConfigTree)) :
    List (String × ConfigTree) → List (String × ConfigTree)
  | [] => below
  | (key, upper) :: rest =>
    let joined := match Table.findIn key below with
      | none => upper
      | some lower => overlay lower upper
    overlayMembers (Table.setIn key joined below) rest

end

/-- The value under a path of keys. -/
def at? : List String → ConfigTree → Option ConfigTree
  | [], tree => some tree
  | _ :: _, .leaf _ _ => none
  | key :: rest, .table _ members => (Table.findIn key members).bind (at? rest)

end ConfigTree

/-! ## Reading settings -/

/-- The result of reading settings. -/
abbrev Extracted (α : Type) := Except ConfigFault α

namespace ConfigTree

/-- The kind of value that a tree is in messages. -/
def asValue : ConfigTree → Origin × ConfigValue
  | .leaf origin value => (origin, value)
  | .table origin _ => (origin, .table [])

/-- Read one value; a problem is reported with its path. -/
def readValue {α : Type} (decode : ConfigValue → Except ConfigProblem α) (path : List String)
    (origin : Origin) (value : ConfigValue) : Extracted α :=
  match decode value with
  | .ok a => .ok a
  | .error problem => .error ⟨problem, path, origin⟩

/-- The setting under a key of a section, or its default. -/
def setting {α : Type} (sectionName key : String) (default : α)
    (decode : ConfigValue → Except ConfigProblem α) (members : List (String × ConfigTree)) :
    Extracted α :=
  match Table.findIn key members with
  | none => .ok default
  | some tree => readValue decode [sectionName, key] tree.asValue.1 tree.asValue.2

/-- The setting at a position of a section given as a list, or its default. -/
def settingAt {α : Type} (sectionName : String) (index : Nat) (default : α)
    (decode : ConfigValue → Except ConfigProblem α) (origin : Origin)
    (elements : List ConfigValue) : Extracted α :=
  match elements[index]? with
  | none => .ok default
  | some value => readValue decode [sectionName, toString index] origin value

end ConfigTree

/-- The section that a tree stands for. Settings are read in the order of their names, and those of a
    list in the order of their declaration; the first fault counts. -/
def LoggingConfig.ofTree : ConfigTree → Extracted LoggingConfig
  | .table _ members => do
    let d : LoggingConfig := {}
    let fileOutput ←
      ConfigTree.setting "logging" "file_output" d.fileOutput ConfigValue.asPath members
    let jsonFormat ←
      ConfigTree.setting "logging" "json_format" d.jsonFormat ConfigValue.asBool members
    let level ← ConfigTree.setting "logging" "level" d.level ConfigValue.asText members
    let maxFiles ←
      ConfigTree.setting "logging" "max_files" d.maxFiles (ConfigValue.asNatural "usize") members
    return ⟨level, jsonFormat, fileOutput, maxFiles⟩
  | .leaf origin (.list elements) => do
    let d : LoggingConfig := {}
    let level ← ConfigTree.settingAt "logging" 0 d.level ConfigValue.asText origin elements
    let jsonFormat ←
      ConfigTree.settingAt "logging" 1 d.jsonFormat ConfigValue.asBool origin elements
    let fileOutput ←
      ConfigTree.settingAt "logging" 2 d.fileOutput ConfigValue.asPath origin elements
    let maxFiles ← ConfigTree.settingAt "logging" 3 d.maxFiles (ConfigValue.asNatural "usize")
      origin elements
    return ⟨level, jsonFormat, fileOutput, maxFiles⟩
  | .leaf origin value =>
    .error ⟨value.mistyped "struct LoggingConfig", ["logging"], origin⟩

/-- The section that a tree stands for. -/
def AccessorCacheConfig.ofTree : ConfigTree → Extracted AccessorCacheConfig
  | .table _ members => do
    let d : AccessorCacheConfig := {}
    let installGlobal ← ConfigTree.setting "accessor_cache" "install_global" d.installGlobal
      ConfigValue.asBool members
    let maxCapacity ← ConfigTree.setting "accessor_cache" "max_capacity" d.maxCapacity
      (ConfigValue.asNatural "u64") members
    let timeToIdleSecs ← ConfigTree.setting "accessor_cache" "time_to_idle_secs" d.timeToIdleSecs
      (ConfigValue.asNatural "u64") members
    return ⟨maxCapacity, timeToIdleSecs, installGlobal⟩
  | .leaf origin (.list elements) => do
    let d : AccessorCacheConfig := {}
    let maxCapacity ← ConfigTree.settingAt "accessor_cache" 0 d.maxCapacity
      (ConfigValue.asNatural "u64") origin elements
    let timeToIdleSecs ← ConfigTree.settingAt "accessor_cache" 1 d.timeToIdleSecs
      (ConfigValue.asNatural "u64") origin elements
    let installGlobal ← ConfigTree.settingAt "accessor_cache" 2 d.installGlobal
      ConfigValue.asBool origin elements
    return ⟨maxCapacity, timeToIdleSecs, installGlobal⟩
  | .leaf origin value =>
    .error ⟨value.mistyped "struct AccessorCacheConfig", ["accessor_cache"], origin⟩

/-- The section that a tree stands for. -/
def DiscoveryConfig.ofTree : ConfigTree → Extracted DiscoveryConfig
  | .table _ members => do
    let d : DiscoveryConfig := {}
    let includeLinked ← ConfigTree.setting "discovery" "include_linked" d.includeLinked
      ConfigValue.asBool members
    return ⟨includeLinked⟩
  | .leaf origin (.list elements) => do
    let d : DiscoveryConfig := {}
    let includeLinked ← ConfigTree.settingAt "discovery" 0 d.includeLinked ConfigValue.asBool
      origin elements
    return ⟨includeLinked⟩
  | .leaf origin value =>
    .error ⟨value.mistyped "struct DiscoveryConfig", ["discovery"], origin⟩

/-- A section of the root table, or its default. -/
def ConfigTree.sectionOr {α : Type} (key : String) (default : α)
    (decode : ConfigTree → Extracted α) (members : List (String × ConfigTree)) : Extracted α :=
  match Table.findIn key members with
  | none => .ok default
  | some tree => decode tree

/-- The configuration in the members of a root table. Sections are read in the order of their names. -/
def AppConfig.ofTree (members : List (String × ConfigTree)) : Extracted AppConfig := do
  let accessorCache ←
    ConfigTree.sectionOr "accessor_cache" {} AccessorCacheConfig.ofTree members
  let discovery ← ConfigTree.sectionOr "discovery" {} DiscoveryConfig.ofTree members
  let logging ← ConfigTree.sectionOr "logging" {} LoggingConfig.ofTree members
  return ⟨logging, accessorCache, discovery⟩

end UnitBinding
