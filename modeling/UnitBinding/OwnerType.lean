import UnitBinding.Text.Quoted

set_option autoImplicit false

/-! # Owner types

An owner type is told from others by its identity, and shown by its full name: a module path and a
simple name, joined by the path separator `::`. Different types may have one name. `splitLast?` cuts a
name at its last separator. -/

namespace UnitBinding

/-! ## Paths -/

/-- The separator between a module path and what lies in the module. -/
def pathSeparator : String := "::"

/-- A path before and after its last separator, if it has one. Colons may overlap: of three in a row
    the last two are the separator. -/
def splitLast? : List Char → Option (List Char × List Char)
  | [] => none
  | c :: rest =>
    match splitLast? rest with
    | some (path, name) => some (c :: path, name)
    | none =>
      match c, rest with
      | ':', ':' :: name => some ([], name)
      | _, _ => none

/-- The two parts and the separator make up the path again. -/
theorem splitLast?_append {cs path name : List Char} (h : splitLast? cs = some (path, name)) :
    cs = path ++ pathSeparator.toList ++ name := by
  induction cs generalizing path name with
  | nil => simp [splitLast?] at h
  | cons c rest ih =>
    simp only [splitLast?] at h
    split at h
    · rename_i p n hrest
      cases h
      simp [ih hrest]
    · split at h
      · cases h
        rfl
      · cases h

/-- The text behind the last separator, or the whole text. -/
def simpleNameOf (path : String) : String :=
  match splitLast? path.toList with
  | some (_, name) => String.ofList name
  | none => path

/-- The text before the last separator, if there is one. -/
def packageOf? (path : String) : Option String :=
  (splitLast? path.toList).map fun parts => String.ofList parts.1

/-! ## Owner types -/

/-- The identity of a type. It settles the name of the type, and is not settled by it. -/
structure TypeId where
  /-- The full name, with the module path. -/
  name : String
  /-- Which of the types with this name it is. -/
  index : Nat := 0
  deriving DecidableEq, Inhabited

/-- A type that properties are resolved on. Two of them are the same exactly if their identities are. -/
structure OwnerType where
  id : TypeId
  deriving DecidableEq, Inhabited

namespace OwnerType

/-- The first type with a name. -/
def named (name : String) : OwnerType := ⟨{ name }⟩

/-- The full name, with the module path. -/
def name (owner : OwnerType) : String := owner.id.name

/-- The name without its module path. -/
def simpleName (owner : OwnerType) : String := simpleNameOf owner.name

/-- The form that diagnostics show. -/
def debug (owner : OwnerType) : String := "OwnerType(" ++ Text.quoted owner.name ++ ")"

end OwnerType

end UnitBinding
