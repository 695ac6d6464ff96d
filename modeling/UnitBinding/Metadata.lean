import UnitBinding.Error
import UnitBinding.OwnerType
import UnitBinding.Table

set_option autoImplicit false

/-! # Type metadata

Owner types register the members they declare, each with the way to read it and, if it can be written,
the way to write it. A member is a pair of functions between the state `σ` of an instance and a typed
value, and a `Codec` takes that value from and to data. `Metadata` maps owner types to their
declarations; `getter?` and `setter?` turn a declaration into an accessor handle. -/

namespace UnitBinding

/-! ## Instances and members -/

/-- An instance of an owner type. -/
structure Instance (σ : Type) where
  owner : OwnerType
  state : σ

/-- How a typed value is written as data and read back. -/
structure Codec (V : Type) where
  encode : V → Json
  decode : Json → Decoded V

/-- A member of an owner type: how its value is read from a state and put into one. -/
structure Member (σ V : Type) where
  get : σ → V
  set : σ → V → σ

/-- A declared property with its access functions on states. -/
structure PropertyMetadata (σ : Type) where
  name : String
  access : AccessType
  read : σ → Json
  write : Option (σ → Json → Decoded σ)

namespace PropertyMetadata

variable {σ V : Type}

/-- The reader of a member. -/
def readMember (codec : Codec V) (member : Member σ V) (state : σ) : Json :=
  codec.encode (member.get state)

/-- The writer of a member: convert, then set. -/
def writeMember (codec : Codec V) (member : Member σ V) (state : σ) (value : Json) : Decoded σ :=
  (codec.decode value).map (member.set state)

/-- A member that can be read and written. -/
def writable (name : String) (access : AccessType) (codec : Codec V) (member : Member σ V) :
    PropertyMetadata σ :=
  ⟨name, access, readMember codec member, some (writeMember codec member)⟩

/-- A member that can only be read. -/
def readOnly (name : String) (access : AccessType) (codec : Codec V) (get : σ → V) :
    PropertyMetadata σ :=
  ⟨name, access, fun state => codec.encode (get state), none⟩

/-- Whether this declares a member under a strategy. -/
def isFor (name : String) (access : AccessType) (p : PropertyMetadata σ) : Bool :=
  p.name = name && p.access = access

/-- What the owner type says about the property. -/
def declared (p : PropertyMetadata σ) : DeclaredProperty := ⟨p.name, p.access, p.write.isSome⟩

end PropertyMetadata

/-! ## Declarations of one type -/

/-- The declared properties of one owner type. -/
structure TypeMetadata (σ : Type) where
  owner : OwnerType
  properties : List (PropertyMetadata σ)

namespace TypeMetadata

variable {σ : Type}

/-- A declaration in progress. -/
def begin (owner : OwnerType) : TypeMetadata σ := ⟨owner, []⟩

/-- Declare a property. Declaring a member again replaces the earlier declaration, and the member
    moves to the end. -/
def declare (m : TypeMetadata σ) (p : PropertyMetadata σ) : TypeMetadata σ :=
  { m with properties := m.properties.filter (fun q => !q.isFor p.name p.access) ++ [p] }

/-- A whole list of declarations, one after the other. -/
def declareAll (m : TypeMetadata σ) (ps : List (PropertyMetadata σ)) : TypeMetadata σ :=
  ps.foldl declare m

/-- The properties declared under one strategy, in the order of their declaration. -/
def declaredUnder (m : TypeMetadata σ) (access : AccessType) : List DeclaredProperty :=
  (m.properties.filter fun p => p.access = access).map PropertyMetadata.declared

/-- The declaration of a member under one strategy. -/
def find? (m : TypeMetadata σ) (name : String) (access : AccessType) :
    Option (PropertyMetadata σ) :=
  m.properties.find? (·.isFor name access)

/-- A member that was just declared is found … -/
@[simp] theorem find?_declare_self (m : TypeMetadata σ) (p : PropertyMetadata σ) :
    (m.declare p).find? p.name p.access = some p := by
  have hnone : (m.properties.filter fun q => !q.isFor p.name p.access).find?
      (·.isFor p.name p.access) = none := by
    simp [List.find?_eq_none]
  have hself : p.isFor p.name p.access = true := by simp [PropertyMetadata.isFor]
  simp [declare, find?, hnone, hself]

/-- … and the other members are found as before. -/
theorem find?_declare_of_ne (m : TypeMetadata σ) (p : PropertyMetadata σ) (name : String)
    (access : AccessType) (h : p.isFor name access = false) :
    (m.declare p).find? name access = m.find? name access := by
  have hkeep (q : PropertyMetadata σ) (hq : q.isFor name access = true) :
      q.isFor p.name p.access = false := by
    rw [Bool.eq_false_iff] at h ⊢
    intro hp
    simp only [PropertyMetadata.isFor, ne_eq, Bool.and_eq_true, decide_eq_true_eq] at h hp hq
    exact h ⟨hp.1.symm.trans hq.1, hp.2.symm.trans hq.2⟩
  have hfind (ps : List (PropertyMetadata σ)) :
      (ps.filter fun q => !q.isFor p.name p.access).find? (·.isFor name access)
        = ps.find? (·.isFor name access) := by
    induction ps with
    | nil => rfl
    | cons q rest ih =>
      by_cases hq : q.isFor name access = true
      · simp [hkeep q hq, hq]
      · by_cases hd : q.isFor p.name p.access = true <;> simp [hd, hq, ih]
  simp [declare, find?, hfind, h]

/-- The form that diagnostics show. -/
def debug (m : TypeMetadata σ) : String :=
  let names := m.properties.map fun p => Text.quoted (p.name ++ ":" ++ p.access.tag)
  "TypeMetadata \x7b owner: " ++ Text.quoted m.owner.name ++ ", properties: ["
    ++ ", ".intercalate names ++ "] \x7d"

end TypeMetadata

/-! ## Accessor handles -/

/-- Reads one property of one owner type. -/
structure Getter (σ : Type) where
  owner : OwnerType
  name : String
  access : AccessType
  read : σ → Json

/-- Writes one property of one owner type. -/
structure Setter (σ : Type) where
  owner : OwnerType
  name : String
  access : AccessType
  write : σ → Json → Decoded σ

/-- The error for an instance of another type. -/
def foreignInstance (owner : OwnerType) : Error :=
  .invalidArgument ("Owner is not an instance of " ++ owner.name)

/-- The error for a value that does not convert. -/
def invalidValue (property : String) (mismatch : Mismatch) : Error :=
  .invalidArgument ("Invalid value for property '" ++ property ++ "': " ++ mismatch.message)

/-- The form in which diagnostics show a handle. -/
def handleDebug (title : String) (owner : OwnerType) (name : String) (access : AccessType) :
    String :=
  title ++ " \x7b owner: " ++ Text.quoted owner.name ++ ", name: " ++ Text.quoted name
    ++ ", access_type: " ++ access.debug ++ " \x7d"

namespace Getter

variable {σ : Type}

/-- The value of the property on an instance. -/
def get (g : Getter σ) (object : Instance σ) : Except Error Json :=
  if object.owner = g.owner then .ok (g.read object.state) else .error (foreignInstance g.owner)

/-- The form that diagnostics show. -/
def debug (g : Getter σ) : String := handleDebug "MetadataGetter" g.owner g.name g.access

end Getter

namespace Setter

variable {σ : Type}

/-- The instance after writing the property. The type of the instance is looked at first. -/
def set (s : Setter σ) (object : Instance σ) (value : Json) : Except Error (Instance σ) :=
  if object.owner = s.owner then
    match s.write object.state value with
    | .ok state => .ok { object with state }
    | .error mismatch => .error (invalidValue s.name mismatch)
  else .error (foreignInstance s.owner)

/-- The form that diagnostics show. -/
def debug (s : Setter σ) : String := handleDebug "MetadataSetter" s.owner s.name s.access

end Setter

/-! ## The registry -/

/-- The metadata of all registered owner types. -/
structure Metadata (σ : Type) where
  types : Table OwnerType (TypeMetadata σ) := Table.empty

namespace Metadata

variable {σ : Type}

/-- A registry without types. -/
def empty : Metadata σ := ⟨Table.empty⟩

/-- Register a type, or replace its declarations. -/
def register (r : Metadata σ) (m : TypeMetadata σ) : Metadata σ := ⟨r.types.set m.owner m⟩

/-- The declarations of a type. -/
def get? (r : Metadata σ) (owner : OwnerType) : Option (TypeMetadata σ) := r.types.get? owner

/-- Take a type away. Handles resolved before keep working. -/
def remove (r : Metadata σ) (owner : OwnerType) : Metadata σ := ⟨r.types.erase owner⟩

/-- A type that was just registered has the new declarations … -/
@[simp] theorem get?_register_self (r : Metadata σ) (m : TypeMetadata σ) :
    (r.register m).get? m.owner = some m :=
  Table.get?_set_self r.types m.owner m

/-- … and the other types keep theirs. -/
theorem get?_register_of_ne (r : Metadata σ) (m : TypeMetadata σ) (owner : OwnerType)
    (h : owner ≠ m.owner) : (r.register m).get? owner = r.get? owner :=
  Table.get?_set_of_ne r.types m.owner owner m h

/-- A type that was just taken away has no declarations … -/
@[simp] theorem get?_remove_self (r : Metadata σ) (owner : OwnerType) :
    (r.remove owner).get? owner = none :=
  Table.get?_erase_self r.types owner

/-- … and the other types keep theirs. -/
theorem get?_remove_of_ne (r : Metadata σ) (owner other : OwnerType) (h : other ≠ owner) :
    (r.remove owner).get? other = r.get? other :=
  Table.get?_erase_of_ne r.types owner other h

/-- The number of registered types. -/
def size (r : Metadata σ) : Nat := r.types.size

/-- The properties that a type declares under one strategy. -/
def declaredProperties (r : Metadata σ) (owner : OwnerType) (access : AccessType) :
    List DeclaredProperty :=
  match r.get? owner with
  | some m => m.declaredUnder access
  | none => []

/-- The declaration of a member of a type under one strategy. -/
def find? (r : Metadata σ) (owner : OwnerType) (name : String) (access : AccessType) :
    Option (PropertyMetadata σ) :=
  (r.get? owner).bind fun m => m.find? name access

/-- The getter of a declared property. -/
def getter (r : Metadata σ) (owner : OwnerType) (name : String) (access : AccessType) :
    Except Error (Getter σ) :=
  match r.find? owner name access with
  | some p => .ok ⟨owner, p.name, access, p.read⟩
  | none => .error (.propertyNotFound owner.name name access .read)

/-- The setter of a declared property that can be written. -/
def setter (r : Metadata σ) (owner : OwnerType) (name : String) (access : AccessType) :
    Except Error (Setter σ) :=
  match (r.find? owner name access).bind (·.write) with
  | some write => .ok ⟨owner, name, access, write⟩
  | none => .error (.propertyNotFound owner.name name access .write)

/-- The form that diagnostics show. -/
def debug (r : Metadata σ) : String :=
  let entries := r.types.entries.map fun e => e.1.debug ++ ": " ++ e.2.debug
  "TypeMetadataRegistry \x7b types: \x7b" ++ ", ".intercalate entries ++ "\x7d \x7d"

/-- The form that diagnostics show of the resolver over the registry. -/
def resolverDebug (r : Metadata σ) : String :=
  "MetadataAccessorResolver \x7b registry: " ++ r.debug ++ " \x7d"

end Metadata

end UnitBinding
