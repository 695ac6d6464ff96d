import UnitBinding.Ambient
import UnitBinding.Metadata

set_option autoImplicit false

/-! # Lookup by name

Declared properties are found by name, trying both strategies unless one is given; types are loaded by
name through an explicit or the ambient resolver. -/

namespace UnitBinding

/-- Tells which properties a type declares under a strategy, in the order of declaration. -/
abbrev PropertySource := OwnerType → AccessType → List DeclaredProperty

/-- The first property with a name among those declared under one strategy. -/
def findPropertyWith (source : PropertySource) (owner : OwnerType) (name : String)
    (access : AccessType) : Option DeclaredProperty :=
  (source owner access).find? fun p => p.name = name

/-- The property with a name, field access before accessor methods. -/
def findProperty (source : PropertySource) (owner : OwnerType) (name : String) :
    Option DeclaredProperty :=
  AccessType.all.findSome? fun access => findPropertyWith source owner name access

/-- Load a type by name through the explicit resolver, or else through the ambient one. A failure
    to load a type passes through; any other failure becomes the cause of one. -/
def loadType (name : String) (explicit : Option TypeResolver) (ambient : Ambient) :
    Except Error OwnerType :=
  match explicit.or (ambient.map (·.value)) with
  | none => .error (.typeLoading name .none)
  | some resolver =>
    match resolver.resolve name with
    | .ok owner => .ok owner
    | .error (.typeLoading other cause) => .error (.typeLoading other cause)
    | .error err => .error (.typeLoading name (.error err))

end UnitBinding
