import UnitBinding.Decimal.Layout
import UnitBinding.Json.Basic
import UnitBinding.Text.Quoted
import UnitBinding.Text.Raw

set_option autoImplicit false

/-! # Decoding data values

A decoder takes a data value to a typed one or says what did not fit: a `Mismatch`, worded by
`Mismatch.message`. Records are read from objects, whose members are visited in the order of their
names so that the first misfit is determined, or from arrays by position. -/

namespace UnitBinding

/-! ## What does not fit -/

/-- What a value turned out to be when something else was expected. -/
inductive Found where
  | null
  | bool (b : Bool)
  | int (i : Int)
  | float (x : Binary64)
  | str (s : String)
  | sequence
  | map
  deriving DecidableEq

/-- The name of a found value in a message. -/
def Found.describe : Found → String
  | .null => "null"
  | .bool b => "boolean `" ++ toString b ++ "`"
  | .int i => "integer `" ++ toString i ++ "`"
  | .float x => "floating point `" ++ Decimal.Layout.exchange.render x ++ "`"
  | .str s => "string " ++ Text.quoted s
  | .sequence => "sequence"
  | .map => "map"

/-- Why a value could not be decoded. -/
inductive Mismatch where
  /-- The value is of another kind. -/
  | invalidType (found : Found) (expected : String)
  /-- The value is of the right kind but not one of those allowed. -/
  | invalidValue (found : Found) (expected : String)
  /-- A member without a default is absent. -/
  | missingField (name : String)
  /-- A text names no alternative. -/
  | unknownVariant (name : String) (known : List String)
  /-- An array has too few or too many elements. -/
  | invalidLength (length : Nat) (expected : String)
  deriving DecidableEq

/-- The wording of a mismatch. -/
def Mismatch.message : Mismatch → String
  | .invalidType found expected => "invalid type: " ++ found.describe ++ ", expected " ++ expected
  | .invalidValue found expected => "invalid value: " ++ found.describe ++ ", expected " ++ expected
  | .missingField name => "missing field `" ++ name ++ "`"
  | .unknownVariant name known =>
    "unknown variant `" ++ name ++ "`, expected "
      ++ " or ".intercalate (known.map fun k => "`" ++ k ++ "`")
  | .invalidLength length expected =>
    "invalid length " ++ toString length ++ ", expected " ++ expected

/-- The result of decoding. -/
abbrev Decoded (α : Type) := Except Mismatch α

namespace Json

/-- What a data value is when it was not expected. -/
def found : Json → Found
  | .null => .null
  | .bool b => .bool b
  | .int i => .int i
  | .float x => .float x
  | .str s => .str s
  | .arr _ => .sequence
  | .obj _ => .map

/-- The mismatch of a value of the wrong kind. -/
def mistyped {α : Type} (value : Json) (expected : String) : Decoded α :=
  .error (.invalidType value.found expected)

/-! ## Plain values -/

/-- A truth value. -/
def asBool : Json → Decoded Bool
  | .bool b => .ok b
  | value => value.mistyped "a boolean"

/-- An integer between two bounds, called `name` in messages. -/
def asIntIn (name : String) (low high : Int) : Json → Decoded Int
  | .int i => if low ≤ i ∧ i ≤ high then .ok i else .error (.invalidValue (.int i) name)
  | value => value.mistyped name

/-- A signed integer of `bits` bits. -/
def asSigned (name : String) (bits : Nat) : Json → Decoded Int :=
  asIntIn name (-(Int.pow 2 (bits - 1))) (Int.pow 2 (bits - 1) - 1)

/-- An unsigned integer of `bits` bits. -/
def asUnsigned (name : String) (bits : Nat) (value : Json) : Decoded Nat :=
  (asIntIn name 0 (Int.pow 2 bits - 1) value).map Int.toNat

/-- A double; an integer is rounded to one. -/
def asFloat : Json → Decoded Binary64
  | .int i => .ok (Binary64.ofInt i)
  | .float x => .ok x
  | value => value.mistyped "f64"

/-- A text of exactly one character. -/
def asChar : Json → Decoded Char
  | .str s => match s.toList with
    | [c] => .ok c
    | _ => .error (.invalidValue (.str s) "a character")
  | value => value.mistyped "a character"

/-- A text. -/
def asString : Json → Decoded String
  | .str s => .ok s
  | value => value.mistyped "a string"

/-- A text that names a file. -/
def asPath : Json → Decoded RawText
  | .str s => .ok (.ofText s)
  | value => value.mistyped "path string"

/-- Null or a value. -/
def asOption {α : Type} (decode : Json → Decoded α) : Json → Decoded (Option α)
  | .null => .ok none
  | value => (decode value).map some

/-- An array, every element decoded; the first misfit counts. -/
def asList {α : Type} (decode : Json → Decoded α) : Json → Decoded (List α)
  | .arr elements => elements.mapM decode
  | value => value.mistyped "a sequence"

/-- An object with one kind of values. -/
def asMap {α : Type} (decode : Json → Decoded α) : Json → Decoded (List (String × α))
  | .obj members => members.mapM fun member => (decode member.2).map fun a => (member.1, a)
  | value => value.mistyped "a map"

/-- One of several named alternatives without contents: its name as a text, or an object whose one
    member has that name and the value null. -/
def asVariant {α : Type} (known : List String) (ofName? : String → Option α) :
    Json → Decoded α
  | .str s => match ofName? s with
    | some a => .ok a
    | none => .error (.unknownVariant s known)
  | .obj [(name, contents)] => match ofName? name with
    | none => .error (.unknownVariant name known)
    | some a => match contents with
      | .null => .ok a
      | value => value.mistyped "unit"
  | .obj _ => .error (.invalidValue .map "map with a single key")
  | value => value.mistyped "string or map"

/-! ## Records -/

/-- The decoded value of a member, if the object has it. -/
def field? {α : Type} (members : List (String × Json)) (name : String)
    (decode : Json → Decoded α) : Decoded (Option α) :=
  match lookup? name members with
  | none => .ok none
  | some value => (decode value).map some

/-- A member that has to be there. -/
def require {α : Type} (name : String) : Option α → Decoded α
  | some a => .ok a
  | none => .error (.missingField name)

/-- The element at a position that has to be there. -/
def element {α : Type} (elements : List Json) (index : Nat) (expected : String)
    (decode : Json → Decoded α) : Decoded α :=
  match elements[index]? with
  | some value => decode value
  | none => .error (.invalidLength index expected)

/-- The element at a position, or a default. -/
def elementOr {α : Type} (elements : List Json) (index : Nat) (default : α)
    (decode : Json → Decoded α) : Decoded α :=
  match elements[index]? with
  | some value => decode value
  | none => .ok default

/-- No element beyond the last position of a record. -/
def atMost (count : Nat) (elements : List Json) : Decoded Unit :=
  if elements.length ≤ count then .ok ()
  else .error (.invalidLength elements.length "fewer elements in array")

end Json

end UnitBinding
