import Mathlib.Data.Set.Operations
import UnitBinding.Sample.Record

set_option autoImplicit false

/-! # Lawful codecs

A value that is put into a property as data has to come out of it again. Two things have a part in
that: the conversion between values and data, and the access to the state of an instance.
`Codec.Lawful` and `Member.Lawful` are what is asked of them. Both speak of those values and states
only that the types stand for, since bounded numbers are whole numbers here like any others.

The plain codecs are lawful, and options, lists, maps and records of lawful ones are so again. All
slots of a sample record are lawful that show their value as it is (`Sample.Slot.lawful`). -/

namespace UnitBinding

variable {σ V : Type}

/-- Values come back from their form as data, and all that data gives are such values. -/
structure Codec.Lawful (codec : Codec V) (values : Set V) : Prop where
  decode_encode : ∀ v ∈ values, codec.decode (codec.encode v) = .ok v
  mem_of_decode : ∀ value v, codec.decode value = .ok v → v ∈ values

/-- A member holds the value that was put into it. -/
structure Member.Lawful (member : Member σ V) (states : Set σ) (values : Set V) : Prop where
  get_mem : ∀ state ∈ states, member.get state ∈ values
  set_mem : ∀ state ∈ states, ∀ v ∈ values, member.set state v ∈ states
  get_set : ∀ state ∈ states, ∀ v ∈ values, member.get (member.set state v) = v

/-! ## Results of several decodings -/

theorem mapM_map_eq_ok {ε α β : Type} {f : α → β} {g : β → Except ε α} {list : List α}
    (h : ∀ a ∈ list, g (f a) = .ok a) : (list.map f).mapM g = .ok list := by
  induction list with
  | nil => rfl
  | cons a rest ih =>
    rw [List.map_cons, List.mapM_cons, h a (by simp), ih fun b hb => h b (by simp [hb])]
    rfl

theorem exists_of_mem_mapM {ε α β : Type} {g : β → Except ε α} {elements : List β}
    {list : List α} (h : elements.mapM g = .ok list) {a : α} (ha : a ∈ list) :
    ∃ element ∈ elements, g element = .ok a := by
  induction elements generalizing list with
  | nil =>
    cases h
    cases ha
  | cons element rest ih =>
    rw [List.mapM_cons] at h
    obtain ⟨first, hfirst, h⟩ := bind_eq_ok_iff.1 h
    obtain ⟨others, hothers, h⟩ := bind_eq_ok_iff.1 h
    cases h
    rcases List.mem_cons.1 ha with rfl | ha
    · exact ⟨element, by simp, hfirst⟩
    · obtain ⟨found, hfound, hdecode⟩ := ih hothers ha
      exact ⟨found, by simp [hfound], hdecode⟩

namespace Codec

variable {encode : V → Json} {decode : Json → Decoded V} {values : Set V}

/-! ## Options, lists and maps -/

/-- An option needs values that are not null: null stands for none of them. -/
theorem Lawful.option (h : Lawful ⟨encode, decode⟩ values) (hnull : ∀ v, encode v ≠ .null) :
    Lawful ⟨Json.ofOption encode, Json.asOption decode⟩ {o | ∀ v ∈ o, v ∈ values} where
  decode_encode := by
    intro o ho
    cases o with
    | none => rfl
    | some v =>
      have hv : decode (encode v) = .ok v := h.decode_encode v (ho v rfl)
      simp only [Json.ofOption]
      unfold Json.asOption
      split
      · next heq => exact absurd heq (hnull v)
      · rw [hv]; rfl
  mem_of_decode := by
    intro value o hdecode v hv
    simp only [Json.asOption] at hdecode
    split at hdecode
    · cases hdecode
      cases hv
    · cases hvalue : decode value with
      | error mismatch => simp [hvalue, Except.map] at hdecode
      | ok w =>
        simp [hvalue, Except.map] at hdecode
        subst hdecode
        rw [Option.mem_some_iff] at hv
        subst hv
        exact h.mem_of_decode value w hvalue

theorem Lawful.list (h : Lawful ⟨encode, decode⟩ values) :
    Lawful ⟨fun list => .arr (list.map encode), Json.asList decode⟩ {l | ∀ v ∈ l, v ∈ values} where
  decode_encode list hlist := mapM_map_eq_ok fun v hv => h.decode_encode v (hlist v hv)
  mem_of_decode := by
    intro value list hdecode v hv
    cases value with
    | arr elements =>
      obtain ⟨element, -, helement⟩ := exists_of_mem_mapM hdecode hv
      exact h.mem_of_decode element v helement
    | _ => cases hdecode

theorem Lawful.map (h : Lawful ⟨encode, decode⟩ values) :
    Lawful ⟨fun map => .obj (map.map fun m => (m.1, encode m.2)), Json.asMap decode⟩
      {map | ∀ m ∈ map, m.2 ∈ values} where
  decode_encode := by
    intro map hmap
    refine mapM_map_eq_ok fun m hm => ?_
    have hvalue : decode (encode m.2) = .ok m.2 := h.decode_encode m.2 (hmap m hm)
    simp [hvalue, Except.map]
  mem_of_decode := by
    intro value map hdecode m hm
    cases value with
    | obj members =>
      obtain ⟨member, -, hmember⟩ := exists_of_mem_mapM hdecode hm
      cases hvalue : decode member.2 with
      | error mismatch => simp [hvalue, Except.map] at hmember
      | ok v =>
        simp [hvalue, Except.map] at hmember
        subst hmember
        exact h.mem_of_decode member.2 v hvalue
    | _ => cases hdecode

end Codec

namespace Sample

/-! ## Plain values -/

theorem boolCodec_lawful : boolCodec.Lawful Set.univ where
  decode_encode _ _ := rfl
  mem_of_decode _ _ _ := trivial

/-- The integers that so many bits hold. -/
def signedRange (bits : Nat) : Set Int :=
  {i | -(Int.pow 2 (bits - 1)) ≤ i ∧ i ≤ Int.pow 2 (bits - 1) - 1}

/-- The natural numbers that so many bits hold. -/
def unsignedRange (bits : Nat) : Set Nat := {n | (n : Int) ≤ Int.pow 2 bits - 1}

instance (bits : Nat) (i : Int) : Decidable (i ∈ signedRange bits) :=
  inferInstanceAs (Decidable (-(Int.pow 2 (bits - 1)) ≤ i ∧ i ≤ Int.pow 2 (bits - 1) - 1))

instance (bits n : Nat) : Decidable (n ∈ unsignedRange bits) :=
  inferInstanceAs (Decidable ((n : Int) ≤ Int.pow 2 bits - 1))

theorem asIntIn_eq_ok {name : String} {low high i : Int} {value : Json}
    (h : Json.asIntIn name low high value = .ok i) : low ≤ i ∧ i ≤ high := by
  cases value with
  | int n =>
    simp only [Json.asIntIn] at h
    split at h
    · next hrange =>
      cases h
      exact hrange
    · cases h
  | _ => cases h

theorem signedCodec_lawful (name : String) (bits : Nat) :
    (signedCodec name bits).Lawful (signedRange bits) where
  decode_encode _ hi := if_pos hi
  mem_of_decode _ _ hdecode := asIntIn_eq_ok hdecode

theorem unsignedCodec_lawful (name : String) (bits : Nat) :
    (unsignedCodec name bits).Lawful (unsignedRange bits) where
  decode_encode := by
    intro n hn
    have hrange : Json.asIntIn name 0 (Int.pow 2 bits - 1) (Json.ofNat n) = .ok (n : Int) :=
      if_pos ⟨Int.natCast_nonneg n, hn⟩
    show (Json.asIntIn name 0 (Int.pow 2 bits - 1) (Json.ofNat n)).map Int.toNat = .ok n
    rw [hrange]
    rfl
  mem_of_decode := by
    intro value n hdecode
    change (Json.asIntIn name 0 (Int.pow 2 bits - 1) value).map Int.toNat = .ok n at hdecode
    cases hvalue : Json.asIntIn name 0 (Int.pow 2 bits - 1) value with
    | error mismatch =>
      rw [hvalue] at hdecode
      cases hdecode
    | ok i =>
      rw [hvalue] at hdecode
      cases hdecode
      obtain ⟨hlow, hhigh⟩ := asIntIn_eq_ok hvalue
      simp only [unsignedRange, Set.mem_ofPred_eq]
      omega

theorem charCodec_lawful : charCodec.Lawful Set.univ where
  decode_encode c _ := by simp [charCodec, Json.asChar]
  mem_of_decode _ _ _ := trivial

theorem textCodec_lawful : textCodec.Lawful Set.univ where
  decode_encode _ _ := rfl
  mem_of_decode _ _ _ := trivial

theorem anyCodec_lawful : anyCodec.Lawful Set.univ where
  decode_encode _ _ := rfl
  mem_of_decode _ _ _ := trivial

/-! ## Addresses -/

theorem zip_lawful :
    Codec.Lawful ⟨Json.ofOption .str, Json.asOption Json.asString⟩ {o | ∀ v ∈ o, v ∈ Set.univ} :=
  textCodec_lawful.option fun _ => nofun

theorem Address.toJson_eq (a : Address) :
    a.toJson = .obj [("floor", Json.ofNat a.floor), ("street", .str a.street),
      ("zip", Json.ofOption .str a.zip)] := by
  have hfloor : "floor" < "street" := by decide
  have hzip : ¬ "zip" < "street" := by decide
  simp only [Address.toJson, Json.ofMembers, List.foldl_cons, List.foldl_nil, Json.insertMember,
    if_pos hfloor, if_neg hzip, String.reduceEq, if_false]

/-- A floor that is left out is the ground floor, which is one of those allowed. -/
theorem floor_of_field? {members : List (String × Json)} {floor : Option Nat}
    (h : Json.field? members "floor" (Json.asUnsigned "u8" 8) = .ok floor) :
    floor.getD 0 ∈ unsignedRange 8 := by
  simp only [Json.field?] at h
  split at h
  · cases h
    exact (by decide : 0 ∈ unsignedRange 8)
  · next value _ =>
    cases hvalue : Json.asUnsigned "u8" 8 value with
    | error mismatch => simp [hvalue, Except.map] at h
    | ok n =>
      simp [hvalue, Except.map] at h
      subst h
      exact (unsignedCodec_lawful "u8" 8).mem_of_decode value n hvalue

theorem floor_of_elementOr {elements : List Json} {floor : Nat}
    (h : Json.elementOr elements 2 0 (Json.asUnsigned "u8" 8) = .ok floor) :
    floor ∈ unsignedRange 8 := by
  simp only [Json.elementOr] at h
  split at h
  · next value _ => exact (unsignedCodec_lawful "u8" 8).mem_of_decode value floor h
  · cases h
    exact (by decide : 0 ∈ unsignedRange 8)

theorem addressCodec_lawful : addressCodec.Lawful {a | a.floor ∈ unsignedRange 8} where
  decode_encode := by
    intro a ha
    have hfloor : Json.asUnsigned "u8" 8 (Json.ofNat a.floor) = .ok a.floor :=
      (unsignedCodec_lawful "u8" 8).decode_encode a.floor ha
    have hzip : Json.asOption Json.asString (Json.ofOption .str a.zip) = .ok a.zip :=
      zip_lawful.decode_encode a.zip fun _ _ => trivial
    have hstreet : Json.asString (.str a.street) = .ok a.street := rfl
    simp [addressCodec, Address.toJson_eq, Address.ofJson, Json.field?, Json.lookup?, hfloor, hzip,
      hstreet, Except.map, Json.require]
    rfl
  mem_of_decode := by
    intro value a hdecode
    cases value with
    | obj members =>
      simp only [addressCodec, Address.ofJson] at hdecode
      obtain ⟨floor, hfloor, hdecode⟩ := bind_eq_ok_iff.1 hdecode
      obtain ⟨street, -, hdecode⟩ := bind_eq_ok_iff.1 hdecode
      obtain ⟨zip, -, hdecode⟩ := bind_eq_ok_iff.1 hdecode
      obtain ⟨street, -, hdecode⟩ := bind_eq_ok_iff.1 hdecode
      cases hdecode
      exact floor_of_field? hfloor
    | arr elements =>
      simp only [addressCodec, Address.ofJson] at hdecode
      obtain ⟨street, -, hdecode⟩ := bind_eq_ok_iff.1 hdecode
      obtain ⟨zip, -, hdecode⟩ := bind_eq_ok_iff.1 hdecode
      obtain ⟨floor, hfloor, hdecode⟩ := bind_eq_ok_iff.1 hdecode
      obtain ⟨-, -, hdecode⟩ := bind_eq_ok_iff.1 hdecode
      cases hdecode
      exact floor_of_elementOr hfloor
    | _ => cases hdecode

/-! ## Slots -/

/-- A record whose numbers all fit into their slots. -/
structure Record.Fits (r : Record) : Prop where
  small : r.small ∈ signedRange 8
  byte : r.byte ∈ unsignedRange 8
  int : r.int ∈ signedRange 32
  long : r.long ∈ signedRange 64
  ulong : r.ulong ∈ unsignedRange 64
  opt : ∀ i ∈ r.opt, i ∈ signedRange 64
  list : ∀ i ∈ r.list, i ∈ signedRange 64
  map : ∀ m ∈ r.map, m.2 ∈ signedRange 64
  address : r.address.floor ∈ unsignedRange 8

theorem Record.fits_empty : Record.Fits {} where
  small := by decide
  byte := by decide
  int := by decide
  long := by decide
  ulong := by decide
  opt := by simp
  list := by simp
  map := by simp
  address := by decide

/-- Whether a slot shows a value that was put into it as it is. A double may be no number, for which
    there is no data, and of the computed slots the one drops a part of the value and the other adds
    to it. -/
def Slot.isFaithful : Slot → Bool
  | .double | .cents | .label => false
  | _ => true

/-- **Every slot that shows its values as they are is lawful.** -/
theorem Slot.lawful (slot : Slot) (h : slot.isFaithful = true) :
    slot.withMember fun {V} (codec : Codec V) member =>
      ∃ values : Set V, codec.Lawful values ∧ member.Lawful {r | r.Fits} values := by
  cases slot with
  | flag =>
    exact ⟨_, boolCodec_lawful, fun _ _ => trivial, fun _ hr _ _ => { hr with }, fun _ _ _ _ => rfl⟩
  | small =>
    exact ⟨_, signedCodec_lawful "i8" 8, fun _ hr => hr.small,
      fun _ hr _ hv => { hr with small := hv }, fun _ _ _ _ => rfl⟩
  | byte =>
    exact ⟨_, unsignedCodec_lawful "u8" 8, fun _ hr => hr.byte,
      fun _ hr _ hv => { hr with byte := hv }, fun _ _ _ _ => rfl⟩
  | int =>
    exact ⟨_, signedCodec_lawful "i32" 32, fun _ hr => hr.int,
      fun _ hr _ hv => { hr with int := hv }, fun _ _ _ _ => rfl⟩
  | long =>
    exact ⟨_, signedCodec_lawful "i64" 64, fun _ hr => hr.long,
      fun _ hr _ hv => { hr with long := hv }, fun _ _ _ _ => rfl⟩
  | ulong =>
    exact ⟨_, unsignedCodec_lawful "u64" 64, fun _ hr => hr.ulong,
      fun _ hr _ hv => { hr with ulong := hv }, fun _ _ _ _ => rfl⟩
  | letter =>
    exact ⟨_, charCodec_lawful, fun _ _ => trivial, fun _ hr _ _ => { hr with }, fun _ _ _ _ => rfl⟩
  | text =>
    exact ⟨_, textCodec_lawful, fun _ _ => trivial, fun _ hr _ _ => { hr with }, fun _ _ _ _ => rfl⟩
  | opt =>
    exact ⟨_, (signedCodec_lawful "i64" 64).option fun _ => nofun, fun _ hr => hr.opt,
      fun _ hr _ hv => { hr with opt := hv }, fun _ _ _ _ => rfl⟩
  | list =>
    exact ⟨_, (signedCodec_lawful "i64" 64).list, fun _ hr => hr.list,
      fun _ hr _ hv => { hr with list := hv }, fun _ _ _ _ => rfl⟩
  | map =>
    exact ⟨_, (signedCodec_lawful "i64" 64).map, fun _ hr => hr.map,
      fun _ hr _ hv => { hr with map := hv }, fun _ _ _ _ => rfl⟩
  | address =>
    exact ⟨_, addressCodec_lawful, fun _ hr => hr.address,
      fun _ hr _ hv => { hr with address := hv }, fun _ _ _ _ => rfl⟩
  | any =>
    exact ⟨_, anyCodec_lawful, fun _ _ => trivial, fun _ hr _ _ => { hr with }, fun _ _ _ _ => rfl⟩
  | double | cents | label => cases h

end Sample

end UnitBinding
