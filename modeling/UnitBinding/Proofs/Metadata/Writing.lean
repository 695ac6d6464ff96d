import Mathlib.Data.List.Induction
import Mathlib.Logic.Function.Basic
import UnitBinding.Proofs.Metadata.Codecs
import UnitBinding.Proofs.Metadata.Declarations

set_option autoImplicit false

/-! # Writing through handles

A setter changes an instance in place, and what it has changed before it fails would stay changed.
`Setter.assign` puts down the steps of a write in that way. It turns out that the one change is the
last step, so that a write does all or nothing (`Setter.attempt_eq`).

What a getter reads after a run of writes is then a matter of the last write that went through
(`Setter.HoldsAt.performAll`). Instances live in the cells `ι` of a store; a run may write to all of
them, through the handle of one property and through handles that leave the property alone, such as
those of other types. `Metadata.handles_read_back` puts this together for a property that was
declared in a registry. -/

namespace UnitBinding

variable {σ V ι : Type}

/-! ## One write -/

namespace Setter

/-- The steps of a write on an instance. -/
def assign (s : Setter σ) (value : Json) : ExceptT Error (StateM (Instance σ)) Unit := do
  let object ← get
  if object.owner ≠ s.owner then throw (foreignInstance s.owner)
  match s.write object.state value with
  | .error mismatch => throw (invalidValue s.name mismatch)
  | .ok state => modify fun object => { object with state }

/-- How a write ends, and the instance afterwards. -/
def attempt (s : Setter σ) (value : Json) (object : Instance σ) : Except Error Unit × Instance σ :=
  (s.assign value).run.run object

/-- **All or nothing.** -/
theorem attempt_eq (s : Setter σ) (value : Json) (object : Instance σ) :
    s.attempt value object
      = match s.set object value with
        | .ok written => (.ok (), written)
        | .error err => (.error err, object) := by
  have hget : (get : ExceptT Error (StateM (Instance σ)) (Instance σ)).run.run object
      = (pure (.ok object, object) : Id _) := rfl
  simp only [attempt, assign, Setter.set, ExceptT.run_bind, StateT.run_bind, hget, pure_bind]
  obtain ⟨owner, state⟩ := object
  by_cases howner : owner = s.owner
  · subst howner
    cases s.write state value with
    | ok written =>
      simp only [ne_eq, not_true_eq_false, ite_false, ite_true]
      rfl
    | error mismatch =>
      simp only [ne_eq, not_true_eq_false, ite_false, ite_true]
      rfl
  · simp only [ne_eq, howner, not_false_eq_true, ite_true, ite_false]
    rfl

theorem attempt_of_foreign {s : Setter σ} {object : Instance σ} (h : object.owner ≠ s.owner)
    (value : Json) : s.attempt value object = (.error (foreignInstance s.owner), object) := by
  simp [attempt_eq, Setter.set, h]

/-- The setter of a member whose values are converted. -/
def ofMember (owner : OwnerType) (name : String) (access : AccessType) (codec : Codec V)
    (member : Member σ V) : Setter σ :=
  ⟨owner, name, access, PropertyMetadata.writeMember codec member⟩

variable {owner : OwnerType} {name : String} {access : AccessType} {codec : Codec V}
  {member : Member σ V}

theorem attempt_of_decode_error {object : Instance σ} (howner : object.owner = owner) {value : Json}
    {mismatch : Mismatch} (hdecode : codec.decode value = .error mismatch) :
    (ofMember owner name access codec member).attempt value object
      = (.error (invalidValue name mismatch), object) := by
  simp [attempt_eq, Setter.set, ofMember, PropertyMetadata.writeMember, howner, hdecode, Except.map]

theorem attempt_of_decode_ok {object : Instance σ} (howner : object.owner = owner) {value : Json}
    {v : V} (hdecode : codec.decode value = .ok v) :
    (ofMember owner name access codec member).attempt value object
      = (.ok (), { object with state := member.set object.state v }) := by
  simp [attempt_eq, Setter.set, ofMember, PropertyMetadata.writeMember, howner, hdecode, Except.map]

end Setter

/-- The getter of a member whose values are converted. -/
def Getter.ofMember (owner : OwnerType) (name : String) (access : AccessType) (codec : Codec V)
    (member : Member σ V) : Getter σ :=
  ⟨owner, name, access, PropertyMetadata.readMember codec member⟩

theorem Getter.get_ofMember {owner : OwnerType} {object : Instance σ}
    (howner : object.owner = owner) (name : String) (access : AccessType) (codec : Codec V)
    (member : Member σ V) :
    (Getter.ofMember owner name access codec member).get object
      = .ok (codec.encode (member.get object.state)) := by
  simp [Getter.get, Getter.ofMember, PropertyMetadata.readMember, howner]

/-! ## Runs of writes -/

/-- A write to an instance in a store. -/
inductive Write (ι σ : Type) where
  /-- Through the handle of the property that is looked at. -/
  | through (target : ι) (value : Json)
  /-- Through any other handle. -/
  | other (setter : Setter σ) (target : ι) (value : Json)

namespace Write

/-- The instance that is written to. -/
def target : Write ι σ → ι
  | .through target _ | .other _ target _ => target

/-- The value that is written. -/
def value : Write ι σ → Json
  | .through _ value | .other _ _ value => value

/-- The handle that a write goes through; `s` is the one that is looked at. -/
def setter (s : Setter σ) : Write ι σ → Setter σ
  | .through .. => s
  | .other setter .. => setter

/-- The value that a write puts into the property of one instance, if it goes there and converts. -/
def accepted? [DecidableEq ι] (codec : Codec V) (cell : ι) : Write ι σ → Option V
  | .through target value => if target = cell then (codec.decode value).toOption else none
  | .other .. => none

end Write

/-- The last value that went into the property of one instance. -/
def lastAccepted [DecidableEq ι] (codec : Codec V) (cell : ι) (writes : List (Write ι σ)) :
    Option V :=
  (writes.filterMap (Write.accepted? codec cell)).getLast?

namespace Setter

variable [DecidableEq ι]

/-- The store after a write, however it ended. -/
def perform (s : Setter σ) (objects : ι → Instance σ) (w : Write ι σ) : ι → Instance σ :=
  Function.update objects w.target ((w.setter s).attempt w.value (objects w.target)).2

/-- The store after some writes, one after the other. -/
def performAll (s : Setter σ) (objects : ι → Instance σ) (writes : List (Write ι σ)) :
    ι → Instance σ :=
  writes.foldl s.perform objects

/-! ### Instances of other types -/

theorem perform_of_ne_owner (s : Setter σ) {objects : ι → Instance σ} {w : Write ι σ} {cell : ι}
    (h : (w.setter s).owner ≠ (objects cell).owner) : s.perform objects w cell = objects cell := by
  unfold perform
  by_cases htarget : cell = w.target
  · subst htarget
    simp [attempt_of_foreign (Ne.symm h)]
  · simp [Function.update_of_ne htarget]

theorem performAll_of_ne_owner (s : Setter σ) {objects : ι → Instance σ} {writes : List (Write ι σ)}
    {cell : ι} (h : ∀ w ∈ writes, (w.setter s).owner ≠ (objects cell).owner) :
    s.performAll objects writes cell = objects cell := by
  induction writes generalizing objects with
  | nil => rfl
  | cons w rest ih =>
    have hstep : s.perform objects w cell = objects cell := s.perform_of_ne_owner (h w (by simp))
    have hrest : s.performAll (s.perform objects w) rest cell = s.perform objects w cell := by
      refine ih fun other hother => ?_
      rw [hstep]
      exact h other (by simp [hother])
    exact hrest.trans hstep

/-! ### The property itself -/

/-- A setter leaves a member of a type alone: it is for another type, or whatever it writes, the
    member keeps its value. -/
def Spares (setter : Setter σ) (owner : OwnerType) (member : Member σ V) (states : Set σ) : Prop :=
  setter.owner = owner → ∀ state ∈ states, ∀ value written,
    setter.write state value = .ok written →
    written ∈ states ∧ member.get written = member.get state

theorem spares_of_apart {W : Type} {codec : Codec W} {other : Member σ W} {worths : Set W}
    {states : Set σ} {member : Member σ V} (hcodec : codec.Lawful worths)
    (hother : other.Lawful states worths)
    (happart : ∀ state v, member.get (other.set state v) = member.get state)
    (owner : OwnerType) (name : String) (access : AccessType) :
    (ofMember owner name access codec other).Spares owner member states := by
  intro _ state hstate value written hwrite
  cases hdecode : codec.decode value with
  | ok v =>
    simp only [ofMember, PropertyMetadata.writeMember, hdecode, Except.map,
      Except.ok.injEq] at hwrite
    subst hwrite
    exact ⟨hother.set_mem state hstate v (hcodec.mem_of_decode value v hdecode), happart state v⟩
  | error mismatch => simp [ofMember, PropertyMetadata.writeMember, hdecode, Except.map] at hwrite

/-- An instance of the type is in one of its states, with some value in the member. -/
structure HoldsAt (object : Instance σ) (owner : OwnerType) (member : Member σ V) (states : Set σ)
    (v : V) : Prop where
  owner_eq : object.owner = owner
  mem : object.state ∈ states
  get_eq : member.get object.state = v

variable {owner : OwnerType} {codec : Codec V} {member : Member σ V} {states : Set σ}
  {values : Set V}

theorem HoldsAt.attempt_of_spares {setter : Setter σ} {object : Instance σ} {v : V}
    (h : HoldsAt object owner member states v) (hspares : setter.Spares owner member states)
    (value : Json) : HoldsAt (setter.attempt value object).2 owner member states v := by
  by_cases howner : object.owner = setter.owner
  · have hsame : setter.owner = owner := howner.symm.trans h.owner_eq
    cases hwrite : setter.write object.state value with
    | ok written =>
      obtain ⟨hmem, hget⟩ := hspares hsame object.state h.mem value written hwrite
      simpa [attempt_eq, Setter.set, howner, hwrite] using
        (⟨hsame, hmem, hget.trans h.get_eq⟩ : HoldsAt ⟨setter.owner, written⟩ owner member states v)
    | error mismatch => simpa [attempt_eq, Setter.set, howner, hwrite] using h
  · simpa [attempt_of_foreign howner] using h

theorem HoldsAt.attempt_self {object : Instance σ} {v : V}
    (h : HoldsAt object owner member states v) (name : String) (access : AccessType)
    (hcodec : codec.Lawful values) (hmember : member.Lawful states values) (value : Json) :
    HoldsAt ((ofMember owner name access codec member).attempt value object).2 owner member states
      ((codec.decode value).toOption.getD v) := by
  cases hdecode : codec.decode value with
  | ok new =>
    have hnew : new ∈ values := hcodec.mem_of_decode value new hdecode
    rw [attempt_of_decode_ok h.owner_eq hdecode]
    exact ⟨h.owner_eq, hmember.set_mem _ h.mem new hnew, hmember.get_set _ h.mem new hnew⟩
  | error mismatch =>
    rw [attempt_of_decode_error h.owner_eq hdecode]
    exact h

/-- **One write** puts a value into the property of an instance, or leaves it as it was. -/
theorem HoldsAt.perform {objects : ι → Instance σ} {cell : ι} {v : V}
    (h : HoldsAt (objects cell) owner member states v) (name : String) (access : AccessType)
    (hcodec : codec.Lawful values) (hmember : member.Lawful states values) {w : Write ι σ}
    (hspares : ∀ setter target value, w = .other setter target value →
      setter.Spares owner member states) :
    HoldsAt ((ofMember owner name access codec member).perform objects w cell) owner member states
      ((w.accepted? codec cell).getD v) := by
  unfold Setter.perform
  by_cases htarget : cell = w.target
  · subst htarget
    rw [Function.update_self]
    cases w with
    | through target value =>
      simpa [Write.setter, Write.value, Write.target, Write.accepted?] using
        h.attempt_self name access hcodec hmember value
    | other setter target value => exact h.attempt_of_spares (hspares setter target value rfl) value
  · rw [Function.update_of_ne htarget]
    cases w with
    | through target value =>
      have hne : target ≠ cell := Ne.symm htarget
      simpa [Write.accepted?, hne] using h
    | other setter target value => exact h

/-- **A run of writes** leaves the last value in the property that went there. The induction takes
    writes off the end, where the last one is. -/
theorem HoldsAt.performAll {objects : ι → Instance σ} {cell : ι} {v : V}
    (h : HoldsAt (objects cell) owner member states v) (name : String) (access : AccessType)
    (hcodec : codec.Lawful values) (hmember : member.Lawful states values)
    {writes : List (Write ι σ)}
    (hspares : ∀ setter target value, .other setter target value ∈ writes →
      setter.Spares owner member states) :
    HoldsAt ((ofMember owner name access codec member).performAll objects writes cell) owner member
      states ((lastAccepted codec cell writes).getD v) := by
  induction writes using List.reverseRecOn with
  | nil => exact h
  | append_singleton earlier w ih =>
    have hearlier := ih fun setter target value hw => hspares setter target value (by simp [hw])
    have hlast := hearlier.perform name access hcodec hmember (w := w)
      fun setter target value hw => hspares setter target value (by simp [hw])
    unfold Setter.performAll lastAccepted at hlast ⊢
    rw [List.foldl_append, List.filterMap_append]
    cases haccepted : w.accepted? codec cell with
    | none => simpa [haccepted] using hlast
    | some new => simpa [haccepted] using hlast

end Setter

/-! ## Handles of a declared property -/

/-- What the handles of a property do to instances. -/
structure ReadsBack (g : Getter σ) (s : Setter σ) (owner : OwnerType) (name : String)
    (codec : Codec V) (member : Member σ V) (states : Set σ) : Prop where
  /-- An instance of another type is refused whatever the value, and stays as it is. -/
  foreign : ∀ object value, object.owner ≠ owner →
    s.attempt value object
      = (.error (.invalidArgument ("Owner is not an instance of " ++ owner.name)), object)
  /-- A value that does not convert is refused, and the instance stays as it is. -/
  refused : ∀ object value mismatch, object.owner = owner → codec.decode value = .error mismatch →
    s.attempt value object
      = (.error (.invalidArgument
          ("Invalid value for property '" ++ name ++ "': " ++ mismatch.message)), object)
  /-- A value that converts is set, and the getter reads it. -/
  written : ∀ object value v, object.owner = owner → object.state ∈ states →
    codec.decode value = .ok v →
    s.attempt value object = (.ok (), ⟨owner, member.set object.state v⟩)
      ∧ g.get ⟨owner, member.set object.state v⟩ = .ok (codec.encode v)
  /-- What was read from one instance can be written to any other, which then reads the same. -/
  rewritten : ∀ object other value, object.owner = owner → object.state ∈ states →
    other.owner = owner → other.state ∈ states → g.get object = .ok value →
    ∃ after, s.attempt value other = (.ok (), after) ∧ g.get after = .ok value
  /-- After a run of writes the getter reads the last value that went in, or else the first value. -/
  lastCounts : ∀ {ι : Type} [DecidableEq ι] (objects : ι → Instance σ) (writes : List (Write ι σ))
    (cell : ι), (objects cell).owner = owner → (objects cell).state ∈ states →
    (∀ setter target value, .other setter target value ∈ writes →
      setter.Spares owner member states) →
    g.get (s.performAll objects writes cell)
      = .ok (codec.encode ((lastAccepted codec cell writes).getD (member.get (objects cell).state)))
  /-- Setters of other types never modify an instance. -/
  otherTypes : ∀ {ι : Type} [DecidableEq ι] (objects : ι → Instance σ) (writes : List (Write ι σ))
    (cell : ι), (∀ w ∈ writes, (w.setter s).owner ≠ (objects cell).owner) →
    s.performAll objects writes cell = objects cell

section ReadsBack

variable {owner : OwnerType} {name : String} {access : AccessType} {codec : Codec V}
  {member : Member σ V} {states : Set σ} {values : Set V}

theorem readsBack_ofMember (hcodec : codec.Lawful values) (hmember : member.Lawful states values) :
    ReadsBack (.ofMember owner name access codec member) (.ofMember owner name access codec member)
      owner name codec member states where
  foreign _ value howner := Setter.attempt_of_foreign howner value
  refused _ _ _ howner hdecode := Setter.attempt_of_decode_error howner hdecode
  written := by
    intro object value v howner hstate hdecode
    subst howner
    have hget := hmember.get_set object.state hstate v (hcodec.mem_of_decode value v hdecode)
    refine ⟨Setter.attempt_of_decode_ok rfl hdecode, ?_⟩
    rw [Getter.get_ofMember (by rfl), hget]
  rewritten := by
    intro object other value howner hstate hother hstate' hread
    rw [Getter.get_ofMember howner] at hread
    cases hread
    have hvalue := hmember.get_mem object.state hstate
    refine ⟨_, Setter.attempt_of_decode_ok hother (hcodec.decode_encode _ hvalue), ?_⟩
    rw [Getter.get_ofMember (by exact hother), hmember.get_set other.state hstate' _ hvalue]
  lastCounts := by
    intro ι _ objects writes cell howner hstate hspares
    have hstart : Setter.HoldsAt (objects cell) owner member states
        (member.get (objects cell).state) :=
      ⟨howner, hstate, rfl⟩
    have hend := hstart.performAll name access hcodec hmember hspares
    rw [Getter.get_ofMember hend.owner_eq, hend.get_eq]
  otherTypes _ _ _ h := Setter.performAll_of_ne_owner _ h

namespace Metadata

/-- **Writes through handles are all or nothing, and are read back.** Take a type whose last
    declaration for a member makes it one that can be read and written, with lawful conversions and
    access. Then both handles are resolved, and they read back what is written. -/
theorem handles_read_back (hcodec : codec.Lawful values) (hmember : member.Lawful states values)
    {r : Metadata σ} {earlier later : List (PropertyMetadata σ)}
    (hregistered : r.get? owner = some ((TypeMetadata.begin owner).declareAll
      (earlier ++ .writable name access codec member :: later)))
    (hlast : ∀ p ∈ later, p.isFor name access = false) :
    ∃ g s, r.getter owner name access = .ok g ∧ r.setter owner name access = .ok s
      ∧ ReadsBack g s owner name codec member states := by
  have hfind : r.find? owner name access = some (.writable name access codec member) := by
    rw [Metadata.find?, hregistered, Option.bind_some]
    exact TypeMetadata.find?_declareAll_of_last _ earlier (.writable name access codec member) hlast
  refine ⟨.ofMember owner name access codec member, .ofMember owner name access codec member,
    ?_, ?_, readsBack_ofMember hcodec hmember⟩
  · rw [Metadata.getter, hfind]
    rfl
  · rw [Metadata.setter, hfind]
    rfl

end Metadata

end ReadsBack

namespace Sample

/-- An order with an address, which was a text in an earlier declaration, and with a number. -/
def orders : Metadata Record :=
  Metadata.empty.register ((TypeMetadata.begin (.named "Order")).declareAll
    [Slot.text.writable "home" .property, Slot.address.writable "home" .property,
      Slot.long.writable "total" .field])

/-- The handle of the number. -/
def totalSetter : Setter Record :=
  .ofMember (.named "Order") "total" .field (signedCodec "i64" 64)
    ⟨Record.long, fun r v => { r with long := v }⟩

/-- An address without its optional parts. -/
def elmStreet : Json := .obj [("street", .str "Elm Street")]

/-- An address on a floor that is too high. -/
def tooHigh : Json := .obj [("floor", .int 256), ("street", .str "Elm Street")]

/-- An address is written and read in full; one that does not fit changes nothing, nor does an
    attempt on an instance of another type that has the same name. The number does not matter. -/
theorem handles_read_back_home :
    orders.get? (.named "Order") = some ((TypeMetadata.begin (.named "Order")).declareAll
        ([Slot.text.writable "home" .property] ++ Slot.address.writable "home" .property ::
          [Slot.long.writable "total" .field]))
      ∧ ∃ g s, orders.getter (.named "Order") "home" .property = .ok g
        ∧ orders.setter (.named "Order") "home" .property = .ok s
        ∧ s.attempt elmStreet ⟨⟨"Order", 1⟩, {}⟩
          = (.error (.invalidArgument "Owner is not an instance of Order"), ⟨⟨"Order", 1⟩, {}⟩)
        ∧ s.attempt tooHigh ⟨.named "Order", {}⟩
          = (.error (.invalidArgument
              "Invalid value for property 'home': invalid value: integer `256`, expected u8"),
            ⟨.named "Order", {}⟩)
        ∧ g.get (s.performAll (fun _ : Unit => ⟨.named "Order", {}⟩)
            [.through () elmStreet, .other totalSetter () (.int 7), .through () tooHigh] ())
          = .ok (.obj [("floor", .int 0), ("street", .str "Elm Street"), ("zip", .null)]) := by
  obtain ⟨values, hcodec, hmember⟩ := Slot.lawful .address rfl
  obtain ⟨numbers, hnumber, hlong⟩ := Slot.lawful .long rfl
  have hregistered : orders.get? (.named "Order")
      = some ((TypeMetadata.begin (.named "Order")).declareAll
      ([Slot.text.writable "home" .property] ++ .writable "home" .property addressCodec
        ⟨Record.address, fun r v => { r with address := v }⟩ ::
          [Slot.long.writable "total" .field])) := rfl
  obtain ⟨g, s, hg, hs, hreads⟩ :=
    Metadata.handles_read_back hcodec hmember hregistered (by decide)
  refine ⟨rfl, g, s, hg, hs, hreads.foreign _ elmStreet (by decide), ?_, ?_⟩
  · exact hreads.refused _ tooHigh (.invalidValue (.int 256) "u8") rfl rfl
  · have hspares : totalSetter.Spares (.named "Order")
        ⟨Record.address, fun r v => { r with address := v }⟩ {r | r.Fits} :=
      Setter.spares_of_apart hnumber hlong (fun _ _ => rfl) _ _ _
    have hlast := hreads.lastCounts (fun _ : Unit => ⟨.named "Order", {}⟩)
      [.through () elmStreet, .other totalSetter () (.int 7), .through () tooHigh] () rfl
      Record.fits_empty (by simpa using hspares)
    exact hlast.trans rfl

end Sample

end UnitBinding
