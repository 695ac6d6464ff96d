import UnitBinding.Metadata

set_option autoImplicit false

/-! # Sample records

A record with a slot of every kind of value, as instances of owner types have them, and the ways to
declare a slot as a property. Two further slots are computed from others: an amount in cents, and a
label. -/

namespace UnitBinding.Sample

/-! ## Records -/

/-- A postal address. -/
structure Address where
  street : String := ""
  zip : Option String := none
  floor : Nat := 0
  deriving DecidableEq, Inhabited

namespace Address

/-- The address as a data value. -/
def toJson (a : Address) : Json :=
  Json.ofMembers
    [("street", .str a.street), ("zip", Json.ofOption .str a.zip), ("floor", Json.ofNat a.floor)]

/-- The address from a data value. The floor may be left out. -/
def ofJson : Json → Decoded Address
  | .obj members => do
    let floor ← Json.field? members "floor" (Json.asUnsigned "u8" 8)
    let street ← Json.field? members "street" Json.asString
    let zip ← Json.field? members "zip" (Json.asOption Json.asString)
    let street ← Json.require "street" street
    return ⟨street, zip.getD none, floor.getD 0⟩
  | .arr elements => do
    let expected := "struct Address with 3 elements"
    let street ← Json.element elements 0 expected Json.asString
    let zip ← Json.element elements 1 expected (Json.asOption Json.asString)
    let floor ← Json.elementOr elements 2 0 (Json.asUnsigned "u8" 8)
    Json.atMost 3 elements
    return ⟨street, zip, floor⟩
  | value => value.mistyped "struct Address"

end Address

/-- A record, a field for each slot that is stored. -/
structure Record where
  flag : Bool := false
  small : Int := 0
  byte : Nat := 0
  int : Int := 0
  long : Int := 0
  ulong : Nat := 0
  double : Binary64 := Binary64.zero
  letter : Char := '\x00'
  text : String := ""
  opt : Option Int := none
  list : List Int := []
  map : List (String × Int) := []
  address : Address := {}
  any : Json := .null
  deriving Inhabited

/-! ## Codecs -/

/-- An integer as a data value. -/
def ofInt (i : Int) : Json := .int i

/-- Truth values. -/
def boolCodec : Codec Bool := ⟨.bool, Json.asBool⟩

/-- Signed integers of so many bits. -/
def signedCodec (name : String) (bits : Nat) : Codec Int := ⟨ofInt, Json.asSigned name bits⟩

/-- Unsigned integers of so many bits. -/
def unsignedCodec (name : String) (bits : Nat) : Codec Nat :=
  ⟨Json.ofNat, Json.asUnsigned name bits⟩

/-- Doubles. -/
def doubleCodec : Codec Binary64 := ⟨.float, Json.asFloat⟩

/-- Characters, as texts of one. -/
def charCodec : Codec Char := ⟨fun c => .str (String.ofList [c]), Json.asChar⟩

/-- Texts. -/
def textCodec : Codec String := ⟨.str, Json.asString⟩

/-- Integers that may be absent. -/
def optCodec : Codec (Option Int) :=
  ⟨Json.ofOption ofInt, Json.asOption (Json.asSigned "i64" 64)⟩

/-- Lists of integers. -/
def listCodec : Codec (List Int) :=
  ⟨fun list => .arr (list.map ofInt), Json.asList (Json.asSigned "i64" 64)⟩

/-- Integers by names, the names in ascending order. -/
def mapCodec : Codec (List (String × Int)) :=
  ⟨fun map => .obj (map.map fun m => (m.1, ofInt m.2)), Json.asMap (Json.asSigned "i64" 64)⟩

/-- Addresses. -/
def addressCodec : Codec Address := ⟨Address.toJson, Address.ofJson⟩

/-- Any data value. -/
def anyCodec : Codec Json := ⟨id, .ok⟩

/-! ## Computed slots -/

/-- An integer brought into sixty-four bits by wrapping around. -/
def wrap64 (i : Int) : Int := Int.bmod i (Nat.pow 2 64)

/-- The amount in cents; setting it drops the odd cents. -/
def cents : Member Record Int :=
  { get := fun r => wrap64 (r.long * 100)
    set := fun r v => { r with long := Int.tdiv v 100 } }

/-- The text and the number of a record; setting it sets the text. -/
def label : Member Record String :=
  { get := fun r => r.text ++ ":" ++ toString r.long
    set := fun r v => { r with text := v } }

/-! ## Slots -/

/-- The slots of a record. -/
inductive Slot where
  | flag | small | byte | int | long | ulong | double | letter | text | opt | list | map | address
  | any | cents | label
  deriving DecidableEq, Inhabited

namespace Slot

/-- The slot with a name. -/
def ofName? : String → Option Slot
  | "flag" => some .flag
  | "small" => some .small
  | "byte" => some .byte
  | "int" => some .int
  | "long" => some .long
  | "ulong" => some .ulong
  | "double" => some .double
  | "letter" => some .letter
  | "text" => some .text
  | "opt" => some .opt
  | "list" => some .list
  | "map" => some .map
  | "address" => some .address
  | "any" => some .any
  | "cents" => some .cents
  | "label" => some .label
  | _ => none

/-- Declare something about a slot, whatever the type of its values. -/
def withMember {α : Type} (slot : Slot)
    (use : {V : Type} → Codec V → Member Record V → α) : α :=
  match slot with
  | .flag => use boolCodec ⟨Record.flag, fun r v => { r with flag := v }⟩
  | .small => use (signedCodec "i8" 8) ⟨Record.small, fun r v => { r with small := v }⟩
  | .byte => use (unsignedCodec "u8" 8) ⟨Record.byte, fun r v => { r with byte := v }⟩
  | .int => use (signedCodec "i32" 32) ⟨Record.int, fun r v => { r with int := v }⟩
  | .long => use (signedCodec "i64" 64) ⟨Record.long, fun r v => { r with long := v }⟩
  | .ulong => use (unsignedCodec "u64" 64) ⟨Record.ulong, fun r v => { r with ulong := v }⟩
  | .double => use doubleCodec ⟨Record.double, fun r v => { r with double := v }⟩
  | .letter => use charCodec ⟨Record.letter, fun r v => { r with letter := v }⟩
  | .text => use textCodec ⟨Record.text, fun r v => { r with text := v }⟩
  | .opt => use optCodec ⟨Record.opt, fun r v => { r with opt := v }⟩
  | .list => use listCodec ⟨Record.list, fun r v => { r with list := v }⟩
  | .map => use mapCodec ⟨Record.map, fun r v => { r with map := v }⟩
  | .address => use addressCodec ⟨Record.address, fun r v => { r with address := v }⟩
  | .any => use anyCodec ⟨Record.any, fun r v => { r with any := v }⟩
  | .cents => use (signedCodec "i64" 64) Sample.cents
  | .label => use textCodec Sample.label

/-- A property over a slot that can be read and written. -/
def writable (slot : Slot) (name : String) (access : AccessType) : PropertyMetadata Record :=
  slot.withMember fun codec member => .writable name access codec member

/-- A property over a slot that can only be read. -/
def readOnly (slot : Slot) (name : String) (access : AccessType) : PropertyMetadata Record :=
  slot.withMember fun codec member => .readOnly name access codec member.get

end Slot

/-- The stored slots of a record as a data value. -/
def Record.toJson (r : Record) : Json :=
  Json.ofMembers
    [("flag", boolCodec.encode r.flag), ("small", ofInt r.small), ("byte", Json.ofNat r.byte),
      ("int", ofInt r.int), ("long", ofInt r.long), ("ulong", Json.ofNat r.ulong),
      ("double", doubleCodec.encode r.double), ("letter", charCodec.encode r.letter),
      ("text", .str r.text), ("opt", optCodec.encode r.opt), ("list", listCodec.encode r.list),
      ("map", mapCodec.encode r.map), ("address", r.address.toJson), ("any", r.any)]

end UnitBinding.Sample
