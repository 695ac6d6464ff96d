import UnitBinding.Contribution

set_option autoImplicit false

/-! # Bundles and type resolvers

A bundle is the module that a persistence unit is requested from. Type names are resolved relative to
a bundle through a `TypeResolver`, and `Bundle.scan` walks a bundle for the types, the module paths of
those types and the mapping descriptors that it packages. -/

namespace UnitBinding

/-! ## Bundles -/

/-- A module of the hosting program. -/
structure Bundle where
  /-- The identifier that the host assigned. -/
  id : Nat
  /-- The symbolic name. -/
  name : String
  /-- The types visible from the module, by name. -/
  types : List (String × OwnerType)
  /-- The paths of the packaged resources. -/
  entries : List String
  deriving DecidableEq, Inhabited

namespace Bundle

/-- The type visible under a name; the first of several counts. -/
def loadType? (bundle : Bundle) (name : String) : Option OwnerType :=
  (bundle.types.find? fun t => t.1 = name).map (·.2)

/-- The names of the visible types. -/
def typeNames (bundle : Bundle) : List String := bundle.types.map (·.1)

/-- The short form that diagnostics show. -/
def debug (bundle : Bundle) : String := bundle.name ++ "#" ++ toString bundle.id

end Bundle

/-! ## Scanning -/

/-- What a scan found. -/
structure ScanResult where
  types : List String
  packages : List String
  mappingFiles : List String
  deriving DecidableEq, Inhabited

namespace ScanResult

/-- Whether the scan found nothing. -/
def isEmpty (r : ScanResult) : Bool :=
  r.types.isEmpty && r.packages.isEmpty && r.mappingFiles.isEmpty

/-- The record as a data value. -/
def toJson (r : ScanResult) : Json :=
  Json.ofMembers
    [("types", Json.ofStrings r.types), ("packages", Json.ofStrings r.packages),
      ("mapping_files", Json.ofStrings r.mappingFiles)]

/-- The record from a data value. -/
def ofJson : Json → Decoded ScanResult
  | .obj members => do
    let mappingFiles ← Json.field? members "mapping_files" (Json.asList Json.asString)
    let packages ← Json.field? members "packages" (Json.asList Json.asString)
    let types ← Json.field? members "types" (Json.asList Json.asString)
    let types ← Json.require "types" types
    let packages ← Json.require "packages" packages
    let mappingFiles ← Json.require "mapping_files" mappingFiles
    return ⟨types, packages, mappingFiles⟩
  | .arr elements => do
    let expected := "struct ScanResult with 3 elements"
    let types ← Json.element elements 0 expected (Json.asList Json.asString)
    let packages ← Json.element elements 1 expected (Json.asList Json.asString)
    let mappingFiles ← Json.element elements 2 expected (Json.asList Json.asString)
    Json.atMost 3 elements
    return ⟨types, packages, mappingFiles⟩
  | value => value.mistyped "struct ScanResult"

end ScanResult

/-- The endings of mapping descriptors. -/
def mappingSuffixes : List String := ["orm.xml", "hbm.xml"]

/-- Whether a packaged resource is a mapping descriptor. -/
def isMappingFile (entry : String) : Bool :=
  mappingSuffixes.any fun suffix => suffix.toList.isSuffixOf entry.toList

/-- Put a text into an ascending list, unless it is there already. -/
def insertSorted (text : String) : List String → List String
  | [] => [text]
  | t :: rest =>
    if text < t then text :: t :: rest
    else if text = t then t :: rest
    else t :: insertSorted text rest

/-- Exactly the new text joins the members. -/
theorem mem_insertSorted {a text : String} {sorted : List String} :
    a ∈ insertSorted text sorted ↔ a = text ∨ a ∈ sorted := by
  induction sorted with
  | nil => simp [insertSorted]
  | cons t rest ih =>
    simp only [insertSorted]
    split
    · simp
    · split
      · rename_i h
        subst h
        simp
      · simp only [List.mem_cons, ih]
        exact or_left_comm

/-- The members of a list in ascending order, each once. -/
def sortedUnique (texts : List String) : List String :=
  texts.foldl (fun sorted text => insertSorted text sorted) []

/-- The types, packages and mapping descriptors of a bundle. -/
def Bundle.scan (bundle : Bundle) : ScanResult :=
  { types := bundle.typeNames
    packages := sortedUnique (bundle.typeNames.filterMap packageOf?)
    mappingFiles := bundle.entries.filter isMappingFile }

/-! ## Type resolvers -/

/-- Resolves type names within one scope. -/
structure TypeResolver where
  /-- The form that diagnostics show. -/
  debug : String
  /-- The bundle that the resolver was loaded from, if it tells. -/
  bundle? : Option Bundle
  /-- The type with a name. -/
  resolve : String → Except Error OwnerType

instance : Inhabited TypeResolver := ⟨⟨"", none, fun name => .error (.typeLoading name .none)⟩⟩

namespace TypeResolver

/-- The resolver of the types visible from one bundle. -/
def ofBundle (bundle : Bundle) : TypeResolver :=
  { debug := "BundleTypeResolver \x7b bundle: " ++ bundle.debug ++ " \x7d"
    bundle? := some bundle
    resolve := fun name =>
      match bundle.loadType? name with
      | some owner => .ok owner
      | none => .error (.typeLoading name .none) }

/-- A resolver that knows no bundle and fails with one error, or with the name that was asked for. -/
def failing (label : String) (err : Option Error) : TypeResolver :=
  { debug := "resolver:" ++ label
    bundle? := none
    resolve := fun name => .error (err.getD (.typeLoading name .none)) }

end TypeResolver

end UnitBinding
