import UnitBinding.Proofs.Metadata.Codecs

set_option autoImplicit false

/-! # Data that was changed

The data of a record is an object with a member for each field. Between writing and reading some members
may be taken away and others put in (`Json.Edit`). Reading asks for the fields by their names, so that
of all the changes only those count that touch a field: whatever is put in under other names, each field
is found as it was, or not at all (`Json.Edit.field?_members`).

A record without defaults is then read back, or the first field that is missing is reported
(`Json.Strict`). -/

namespace UnitBinding

namespace Json

/-! ## Members by name -/

theorem lookup?_insertMember (name other : String) (value : Json) (members : List (String × Json)) :
    lookup? other (insertMember name value members)
      = if other = name then some value else lookup? other members := by
  split
  · next h => rw [h, lookup?_insertMember_self]
  · next h => exact lookup?_insertMember_of_ne name other value members h

theorem lookup?_filter (keep : String → Bool) (name : String) (members : List (String × Json)) :
    lookup? name (members.filter fun m => keep m.1)
      = if keep name then lookup? name members else none := by
  induction members with
  | nil => cases keep name <;> rfl
  | cons member rest ih =>
    obtain ⟨n, v⟩ := member
    by_cases hname : n = name
    · subst hname
      cases hkeep : keep n <;> simp [hkeep, ih, lookup?]
    · cases hkeep : keep n <;> simp [hkeep, ih, lookup?, hname]

theorem lookup?_map (change : String → Json → Json) (name : String)
    (members : List (String × Json)) :
    lookup? name (members.map fun m => (m.1, change m.1 m.2))
      = (lookup? name members).map (change name) := by
  induction members with
  | nil => rfl
  | cons member rest ih =>
    obtain ⟨n, v⟩ := member
    by_cases hname : n = name
    · subst hname
      simp [lookup?]
    · simp [lookup?, hname, ih]

/-- The members with further ones, each at its place. -/
def putAll (further members : List (String × Json)) : List (String × Json) :=
  further.foldl (fun sorted member => insertMember member.1 member.2 sorted) members

theorem lookup?_putAll_of_ne {further : List (String × Json)} {name : String}
    (h : ∀ m ∈ further, m.1 ≠ name) (members : List (String × Json)) :
    lookup? name (putAll further members) = lookup? name members := by
  induction further generalizing members with
  | nil => rfl
  | cons m rest ih =>
    have hrest := ih (fun other hother => h other (by simp [hother])) (insertMember m.1 m.2 members)
    have hfirst : name ≠ m.1 := (h m (by simp)).symm
    exact hrest.trans (lookup?_insertMember_of_ne m.1 name m.2 members hfirst)

/-! ## Changes to an object -/

/-- Changes to an object. -/
structure Edit where
  /-- The names of the members that are taken away. -/
  removed : List String := []
  /-- The members that are put in after that. -/
  added : List (String × Json) := []

namespace Edit

/-- The members after the changes. -/
def members (e : Edit) (all : List (String × Json)) : List (String × Json) :=
  putAll e.added (all.filter fun m => m.1 ∉ e.removed)

/-- An object after the changes. -/
def apply (e : Edit) : Json → Json
  | .obj members => .obj (e.members members)
  | value => value

theorem apply_nothing (value : Json) : ({} : Edit).apply value = value := by
  cases value with
  | obj all =>
    have hall : (all.filter fun m => m.1 ∉ ({} : Edit).removed) = all := by simp
    rw [apply, members, hall, putAll, List.foldl_nil]
  | _ => rfl

/-- Nothing is put in under one of these names. -/
def AddsNone (e : Edit) (fields : List String) : Prop := ∀ m ∈ e.added, m.1 ∉ fields

instance (e : Edit) (fields : List String) : Decidable (e.AddsNone fields) :=
  inferInstanceAs (Decidable (∀ m ∈ e.added, m.1 ∉ fields))

/-- What is left of a field. -/
def left {α : Type} (e : Edit) (name : String) (a : α) : Option α :=
  if name ∈ e.removed then none else some a

variable {e : Edit} {fields : List String} {name : String}

theorem lookup?_members (h : e.AddsNone fields) (hname : name ∈ fields)
    (all : List (String × Json)) :
    lookup? name (e.members all) = if name ∈ e.removed then none else lookup? name all := by
  have hother : ∀ m ∈ e.added, m.1 ≠ name := by
    rintro m hm rfl
    exact h m hm hname
  rw [members, lookup?_putAll_of_ne hother, lookup?_filter fun n => n ∉ e.removed]
  by_cases hremoved : name ∈ e.removed <;> simp [hremoved]

/-- **A field is found as it was, or not at all.** -/
theorem field?_members {α : Type} {decode : Json → Decoded α} {all : List (String × Json)}
    {value : Json} {a : α} (h : e.AddsNone fields) (hname : name ∈ fields)
    (hlookup : lookup? name all = some value) (hdecode : decode value = .ok a) :
    field? (e.members all) name decode = .ok (e.left name a) := by
  rw [field?, lookup?_members h hname, left]
  by_cases hremoved : name ∈ e.removed
  · rw [if_pos hremoved, if_pos hremoved]
  · rw [if_neg hremoved, if_neg hremoved, hlookup]
    dsimp only
    rw [hdecode]
    rfl

theorem addsNone_nothing (fields : List String) : ({} : Edit).AddsNone fields := by
  intro m hm
  cases hm

/-- With a default in the place of a field that was taken away. -/
theorem getD_left {α : Type} (e : Edit) (name : String) (a standard : α) :
    (name ∈ e.removed → (e.left name a).getD standard = standard)
      ∧ (name ∉ e.removed → (e.left name a).getD standard = a) := by
  rw [left]
  split <;> simp [*]

end Edit

/-! ## Records without defaults -/

/-- Records of a type, whose fields are these in the order of their declaration, are read back from
    their data. -/
structure Strict {α : Type} (fields : List String) (encode : α → Json) (decode : Json → Decoded α) :
    Prop where
  same : ∀ a, decode (encode a) = .ok a
  /-- What is put in under other names does not matter; if fields are taken away, the first of them is
      reported as missing. -/
  changed : ∀ (a : α) (e : Edit), e.AddsNone fields →
    decode (e.apply (encode a)) = match fields.find? (· ∈ e.removed) with
      | none => .ok a
      | some name => .error (.missingField name)

/-- The last step of reading: all fields have to be there. -/
theorem Edit.require_three {α β γ δ : Type} (e : Edit) (first second third : String) (a : α) (b : β)
    (c : γ) (build : α → β → γ → δ) :
    (do
      let a ← require first (e.left first a)
      let b ← require second (e.left second b)
      let c ← require third (e.left third c)
      return build a b c : Decoded δ)
      = match [first, second, third].find? (· ∈ e.removed) with
        | none => .ok (build a b c)
        | some name => .error (.missingField name) := by
  have hrequire {ε : Type} (name : String) (v : ε) : require name (e.left name v)
      = if name ∈ e.removed then .error (.missingField name) else .ok v := by
    rw [left]
    split <;> rfl
  rw [hrequire, hrequire, hrequire]
  by_cases hfirst : first ∈ e.removed
  · simp only [hfirst, if_true, decide_true, List.find?_cons_of_pos]
    rfl
  by_cases hsecond : second ∈ e.removed
  · simp [hfirst, hsecond]
    rfl
  by_cases hthird : third ∈ e.removed
  · simp [hfirst, hsecond, hthird]
    rfl
  · simp [hfirst, hsecond, hthird]
    rfl

theorem asList_ofStrings (texts : List String) : asList asString (ofStrings texts) = .ok texts :=
  mapM_map_eq_ok fun _ _ => rfl

/-- A field of a record type, whose values are read back from their data. -/
structure Field (ρ α : Type) where
  name : String
  get : ρ → α
  encode : α → Json
  decode : Json → Decoded α
  decode_encode : ∀ a, decode (encode a) = .ok a

namespace Field

variable {ρ α : Type}

/-- The member of an object for the field. -/
def member (f : Field ρ α) (r : ρ) : String × Json := (f.name, f.encode (f.get r))

/-- The field in an object. -/
def read? (f : Field ρ α) (members : List (String × Json)) : Decoded (Option α) :=
  field? members f.name f.decode

/-- A field that holds a text. -/
def text (name : String) (get : ρ → String) : Field ρ String :=
  ⟨name, get, .str, asString, fun _ => rfl⟩

/-- A field that holds a list of texts. -/
def texts (name : String) (get : ρ → List String) : Field ρ (List String) :=
  ⟨name, get, ofStrings, asList asString, asList_ofStrings⟩

/-- A field that holds a truth value. -/
def flag (name : String) (get : ρ → Bool) : Field ρ Bool :=
  ⟨name, get, .bool, asBool, fun _ => rfl⟩

theorem read?_members (f : Field ρ α) {e : Edit} {fields : List String} (h : e.AddsNone fields)
    (hname : f.name ∈ fields) {all : List (String × Json)} {r : ρ}
    (hlookup : lookup? f.name all = some (f.encode (f.get r))) :
    f.read? (e.members all) = .ok (e.left f.name (f.get r)) :=
  Edit.field?_members h hname hlookup (f.decode_encode (f.get r))

end Field

/-- **A record of three fields** is read back, in whatever order its fields are looked for. -/
theorem strict_of_three {ρ α β γ : Type} (f : Field ρ α) (g : Field ρ β) (k : Field ρ γ)
    (build : α → β → γ → ρ) (hbuild : ∀ r, build (f.get r) (g.get r) (k.get r) = r)
    (hnames : [f.name, g.name, k.name].Nodup) {encode : ρ → Json} {decode : Json → Decoded ρ}
    (hencode : ∀ r, encode r = ofMembers [f.member r, g.member r, k.member r])
    (hdecode : ∀ members a b c, f.read? members = .ok a → g.read? members = .ok b →
      k.read? members = .ok c →
      decode (.obj members) = do
        let a ← require f.name a
        let b ← require g.name b
        let c ← require k.name c
        return build a b c) :
    Strict [f.name, g.name, k.name] encode decode := by
  suffices hchanged : ∀ (r : ρ) (e : Edit), e.AddsNone [f.name, g.name, k.name] →
      decode (e.apply (encode r)) = match [f.name, g.name, k.name].find? (· ∈ e.removed) with
        | none => .ok r
        | some name => .error (.missingField name) by
    refine ⟨fun r => ?_, hchanged⟩
    have hsame := hchanged r {} (Edit.addsNone_nothing _)
    rwa [Edit.apply_nothing, List.find?_eq_none.2 (by simp)] at hsame
  intro r e h
  obtain ⟨hfg, hfk, hgk⟩ : f.name ≠ g.name ∧ f.name ≠ k.name ∧ g.name ≠ k.name := by
    simpa [and_assoc] using hnames
  obtain ⟨all, hall, hf, hg, hk⟩ : ∃ all, encode r = .obj all
      ∧ lookup? f.name all = some (f.encode (f.get r))
      ∧ lookup? g.name all = some (g.encode (g.get r))
      ∧ lookup? k.name all = some (k.encode (k.get r)) := by
    refine ⟨_, hencode r, ?_, ?_, ?_⟩ <;>
      simp [Field.member, lookup?_insertMember, hfg, hfk, hgk]
  have hf := f.read?_members h (by simp) hf
  have hg := g.read?_members h (by simp) hg
  have hk := k.read?_members h (by simp) hk
  have hread := e.require_three f.name g.name k.name (f.get r) (g.get r) (k.get r) build
  rw [hbuild] at hread
  rw [hall, Edit.apply, hdecode _ _ _ _ hf hg hk]
  exact hread

end Json

end UnitBinding
