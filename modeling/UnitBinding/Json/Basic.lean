import UnitBinding.Decimal.Binary64

set_option autoImplicit false

/-! # Data values

The value type that property values, caller configuration and serialised records share. Integers and
doubles are different values (`1` is not `1.0`), and an object keeps its members in ascending order of
their names, one member a name, so that two objects with the same members are the same value. -/

namespace UnitBinding

/-- A data value. -/
inductive Json where
  | null
  | bool (b : Bool)
  | int (i : Int)
  | float (x : Binary64)
  | str (s : String)
  | arr (elements : List Json)
  | obj (members : List (String × Json))
  deriving Inhabited

namespace Json

/-! ## Members of objects -/

/-- Put a member at its place, over an earlier one of the same name. -/
def insertMember (name : String) (value : Json) :
    List (String × Json) → List (String × Json)
  | [] => [(name, value)]
  | (n, v) :: rest =>
    if name < n then (name, value) :: (n, v) :: rest
    else if name = n then (name, value) :: rest
    else (n, v) :: insertMember name value rest

/-- The object with these members; of several with one name the last counts. -/
def ofMembers (members : List (String × Json)) : Json :=
  .obj (members.foldl (fun sorted member => insertMember member.1 member.2 sorted) [])

/-- The value of the member with this name. -/
def lookup? (name : String) : List (String × Json) → Option Json
  | [] => none
  | (n, v) :: rest => if n = name then some v else lookup? name rest

/-- A member that was just put in is found. -/
theorem lookup?_insertMember_self (name : String) (value : Json) (members : List (String × Json)) :
    lookup? name (insertMember name value members) = some value := by
  induction members with
  | nil => simp [insertMember, lookup?]
  | cons member rest ih =>
    obtain ⟨n, v⟩ := member
    simp only [insertMember]
    split
    · simp [lookup?]
    · split
      · simp [lookup?]
      · rename_i hlt hne
        simp [lookup?, Ne.symm hne, ih]

/-- Putting a member in leaves the others alone. -/
theorem lookup?_insertMember_of_ne (name other : String) (value : Json)
    (members : List (String × Json)) (h : other ≠ name) :
    lookup? other (insertMember name value members) = lookup? other members := by
  induction members with
  | nil => simp [insertMember, lookup?, Ne.symm h]
  | cons member rest ih =>
    obtain ⟨n, v⟩ := member
    simp only [insertMember]
    split
    · simp [lookup?, Ne.symm h]
    · split
      · rename_i hlt heq
        subst heq
        simp [lookup?, Ne.symm h]
      · simp [lookup?, ih]

/-! ## Building values -/

/-- A natural number. -/
def ofNat (n : Nat) : Json := .int n

/-- A list of texts. -/
def ofStrings (texts : List String) : Json := .arr (texts.map .str)

/-- An optional value, absence as null. -/
def ofOption {α : Type} (encode : α → Json) : Option α → Json
  | none => .null
  | some a => encode a

end Json

end UnitBinding
