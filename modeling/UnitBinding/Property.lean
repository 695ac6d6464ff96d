import UnitBinding.Json.Decode

set_option autoImplicit false

/-! # Properties and how they are reached

A property of an owner type is read and written either directly as a field or through accessor
methods. `AccessType` is that choice, `PropertyData` describes a mapped property whose logical name
may differ from its member name, and `DeclaredProperty` is what an owner type says about one of its
members. -/

namespace UnitBinding

/-! ## Access strategies -/

/-- How a property is reached on its owner. -/
inductive AccessType where
  /-- Directly as a field. -/
  | field
  /-- Through accessor methods. -/
  | property
  deriving DecidableEq, Inhabited

namespace AccessType

/-- Both strategies, in the order in which a lenient lookup tries them. -/
def all : List AccessType := [.field, .property]

/-- The textual tag of a strategy. -/
def tag : AccessType → String
  | .field => "field"
  | .property => "property"

/-- The strategy with a tag; tags are compared exactly. -/
def ofTag? (tag : String) : Option AccessType :=
  if tag = "field" then some .field
  else if tag = "property" then some .property
  else none

/-- The constructor name that diagnostics show. -/
def debug : AccessType → String
  | .field => "Field"
  | .property => "Property"

@[simp] theorem ofTag?_tag (a : AccessType) : ofTag? a.tag = some a := by
  cases a <;> decide

/-- A text is a tag exactly if it is the tag of the strategy found for it. -/
theorem ofTag?_eq_some_iff {s : String} {a : AccessType} : ofTag? s = some a ↔ s = a.tag := by
  constructor
  · intro h
    unfold ofTag? at h
    split at h
    · cases h; assumption
    · split at h
      · cases h; assumption
      · cases h
  · rintro rfl
    exact ofTag?_tag a

/-- The name of a strategy in data: that of its constructor in lower case. -/
def variant (a : AccessType) : String := String.ofList (a.debug.toList.map Char.toLower)

/-- The strategy with a name in data. -/
def ofVariant? (name : String) : Option AccessType := all.find? fun a => a.variant = name

/-- The strategy as a data value. -/
def toJson (a : AccessType) : Json := .str a.variant

/-- A strategy from a data value. -/
def ofJson : Json → Decoded AccessType :=
  Json.asVariant (all.map variant) ofVariant?

end AccessType

/-- Whether a property is to be read or written. -/
inductive AccessMode where
  | read
  | write
  deriving DecidableEq, Inhabited

namespace AccessMode

/-- Both modes. -/
def all : List AccessMode := [.read, .write]

/-- The textual tag of a mode. -/
def tag : AccessMode → String
  | .read => "read"
  | .write => "write"

/-- The mode with a tag. -/
def ofTag? (tag : String) : Option AccessMode :=
  if tag = "read" then some .read
  else if tag = "write" then some .write
  else none

@[simp] theorem ofTag?_tag (m : AccessMode) : ofTag? m.tag = some m := by
  cases m <;> decide

/-- The tag as a data value. -/
def toJson (m : AccessMode) : Json := .str m.tag

/-- A mode from its tag. -/
def ofJson : Json → Decoded AccessMode :=
  Json.asVariant ["read", "write"] ofTag?

end AccessMode

/-! ## Mapped properties -/

/-- A mapped property: its logical name, the member that holds it, and how that is reached. -/
structure PropertyData where
  name : String
  beanName : String
  access : AccessType
  deriving DecidableEq, Inhabited

namespace PropertyData

/-- A property whose logical name is its member name. -/
def simple (name : String) (access : AccessType) : PropertyData := ⟨name, name, access⟩

/-- The description that diagnostics show. -/
def describe (p : PropertyData) : String :=
  p.name ++ " (" ++ p.beanName ++ ", " ++ p.access.tag ++ ")"

/-- The record as a data value. -/
def toJson (p : PropertyData) : Json :=
  Json.ofMembers
    [("name", .str p.name), ("bean_name", .str p.beanName), ("access_type", p.access.toJson)]

/-- The record from a data value. -/
def ofJson : Json → Decoded PropertyData
  | .obj members => do
    let access ← Json.field? members "access_type" AccessType.ofJson
    let beanName ← Json.field? members "bean_name" Json.asString
    let name ← Json.field? members "name" Json.asString
    let name ← Json.require "name" name
    let beanName ← Json.require "bean_name" beanName
    let access ← Json.require "access_type" access
    return ⟨name, beanName, access⟩
  | .arr elements => do
    let expected := "struct PropertyData with 3 elements"
    let name ← Json.element elements 0 expected Json.asString
    let beanName ← Json.element elements 1 expected Json.asString
    let access ← Json.element elements 2 expected AccessType.ofJson
    Json.atMost 3 elements
    return ⟨name, beanName, access⟩
  | value => value.mistyped "struct PropertyData"

end PropertyData

/-! ## Declared properties -/

/-- A member that an owner type declares under one strategy. -/
structure DeclaredProperty where
  name : String
  access : AccessType
  /-- Whether the member can be written as well as read. -/
  writable : Bool
  deriving DecidableEq, Inhabited

namespace DeclaredProperty

/-- The record as a data value. -/
def toJson (p : DeclaredProperty) : Json :=
  Json.ofMembers
    [("name", .str p.name), ("access_type", p.access.toJson), ("writable", .bool p.writable)]

/-- The record from a data value. -/
def ofJson : Json → Decoded DeclaredProperty
  | .obj members => do
    let access ← Json.field? members "access_type" AccessType.ofJson
    let name ← Json.field? members "name" Json.asString
    let writable ← Json.field? members "writable" Json.asBool
    let name ← Json.require "name" name
    let access ← Json.require "access_type" access
    let writable ← Json.require "writable" writable
    return ⟨name, access, writable⟩
  | .arr elements => do
    let expected := "struct DeclaredProperty with 3 elements"
    let name ← Json.element elements 0 expected Json.asString
    let access ← Json.element elements 1 expected AccessType.ofJson
    let writable ← Json.element elements 2 expected Json.asBool
    Json.atMost 3 elements
    return ⟨name, access, writable⟩
  | value => value.mistyped "struct DeclaredProperty"

end DeclaredProperty

end UnitBinding
