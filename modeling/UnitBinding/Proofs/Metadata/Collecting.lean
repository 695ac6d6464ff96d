import Mathlib.Data.List.Induction
import UnitBinding.Proofs.Metadata.Declarations

set_option autoImplicit false

/-! # Collecting declarations

The members of a type are declared one after the other, as fields or properties that can be written, or
as members to be read only. A later declaration for a member takes the place of an earlier one and goes
to the end of the list.

What there is in the end is known from the sequence of declarations alone: for every member from the
last declaration for it, and the order of the list from where these stand in the sequence
(`lastOf`). Both facts are kept by one declaration more, which is why the inductions take declarations
off the end. -/

namespace UnitBinding

variable {σ : Type}

/-! ## Declarations -/

/-- The ways to declare a member. -/
inductive Declaration (σ : Type) : Type 1 where
  /-- A member that is read and written as a field. -/
  | field {V : Type} (name : String) (codec : Codec V) (member : Member σ V)
  /-- A member that is read and written through methods. -/
  | property {V : Type} (name : String) (codec : Codec V) (member : Member σ V)
  /-- A member that is only read. -/
  | readOnly {V : Type} (name : String) (access : AccessType) (codec : Codec V) (get : σ → V)

namespace Declaration

/-- The member that is declared, with its strategy. -/
def member : Declaration σ → String × AccessType
  | .field name _ _ => (name, .field)
  | .property name _ _ => (name, .property)
  | .readOnly name access _ _ => (name, access)

/-- Whether the member is declared as one that can be written. -/
def isWritable : Declaration σ → Bool
  | .field .. | .property .. => true
  | .readOnly .. => false

/-- The value of the member as data. -/
def reader : Declaration σ → σ → Json
  | .field _ codec member | .property _ codec member => fun state => codec.encode (member.get state)
  | .readOnly _ _ codec get => fun state => codec.encode (get state)

/-- How data is put into the member. -/
def writer? : Declaration σ → Option (σ → Json → Decoded σ)
  | .field _ codec member | .property _ codec member =>
    some fun state value => (codec.decode value).map (member.set state)
  | .readOnly .. => none

/-- What is kept of a declaration. -/
def entry : Declaration σ → PropertyMetadata σ
  | .field name codec member => .writable name .field codec member
  | .property name codec member => .writable name .property codec member
  | .readOnly name access codec get => .readOnly name access codec get

variable (d : Declaration σ)

@[simp] theorem member_entry : d.entry.member = d.member := by cases d <;> rfl

@[simp] theorem read_entry : d.entry.read = d.reader := by cases d <;> rfl

@[simp] theorem write_entry : d.entry.write = d.writer? := by cases d <;> rfl

@[simp] theorem isSome_writer? : d.writer?.isSome = d.isWritable := by cases d <;> rfl

/-- What is shown of a declaration. -/
theorem declared_entry {name : String} {access : AccessType} (h : d.member = (name, access)) :
    d.entry.declared = ⟨name, access, d.isWritable⟩ := by
  obtain ⟨rfl, rfl⟩ := Prod.mk.inj (d.member_entry.trans h)
  rw [PropertyMetadata.declared, d.write_entry, d.isSome_writer?]

theorem isFor_entry_iff {name : String} {access : AccessType} :
    d.entry.isFor name access = true ↔ d.member = (name, access) := by
  rw [PropertyMetadata.isFor_iff, member_entry]

end Declaration

/-! ## The last declaration for a member -/

/-- The last declaration for a member, and its position in the sequence. -/
def lastOf (ds : List (Declaration σ)) (member : String × AccessType) :
    Option (Declaration σ × Nat) :=
  (ds.zipIdx.filter fun placed => placed.1.member = member).getLast?

theorem lastOf_append_self (ds : List (Declaration σ)) (d : Declaration σ) :
    lastOf (ds ++ [d]) d.member = some (d, ds.length) := by
  rw [lastOf, List.zipIdx_append, List.filter_append, List.zipIdx_singleton,
    List.filter_cons_of_pos (by simp), List.filter_nil, List.getLast?_concat, Nat.zero_add]

theorem lastOf_append_of_ne (ds : List (Declaration σ)) {d : Declaration σ}
    {member : String × AccessType} (h : d.member ≠ member) :
    lastOf (ds ++ [d]) member = lastOf ds member := by
  rw [lastOf, List.zipIdx_append, List.filter_append, List.zipIdx_singleton,
    List.filter_cons_of_neg (by simpa using h), List.filter_nil, List.append_nil, lastOf]

/-- The last declaration stands at its position … -/
theorem getElem?_of_lastOf {ds : List (Declaration σ)} {member : String × AccessType}
    {d : Declaration σ} {position : Nat} (h : lastOf ds member = some (d, position)) :
    ds[position]? = some d :=
  List.mem_zipIdx_iff_getElem?.1 (List.mem_filter.1 (List.mem_of_getLast? h)).1

/-- … and is for the member. -/
theorem member_of_lastOf {ds : List (Declaration σ)} {member : String × AccessType}
    {d : Declaration σ} {position : Nat} (h : lastOf ds member = some (d, position)) :
    d.member = member := by
  simpa using (List.mem_filter.1 (List.mem_of_getLast? h)).2

/-- Which declaration is the last one does not depend on those for other members. -/
theorem map_fst_lastOf (ds : List (Declaration σ)) (member : String × AccessType) :
    (lastOf ds member).map Prod.fst = (ds.filter fun d => d.member = member).getLast? := by
  rw [lastOf, ← List.getLast?_map]
  conv_rhs => rw [← List.zipIdx_map_fst 0 ds, List.filter_map]
  rfl

/-- A member that was declared has a last declaration. -/
theorem exists_lastOf {ds : List (Declaration σ)} {d : Declaration σ} (h : d ∈ ds) :
    ∃ last position, lastOf ds d.member = some (last, position) := by
  cases hlast : lastOf ds d.member with
  | some found => exact ⟨found.1, found.2, rfl⟩
  | none =>
    have hnone := map_fst_lastOf ds d.member
    rw [hlast, Option.map_none, eq_comm, List.getLast?_eq_none_iff, List.filter_eq_nil_iff] at hnone
    exact absurd (decide_eq_true rfl) (hnone d h)

/-! ## What is collected -/

namespace TypeMetadata

/-- The metadata of a type after a sequence of declarations. -/
def collected (owner : OwnerType) (ds : List (Declaration σ)) : TypeMetadata σ :=
  (begin owner).declareAll (ds.map Declaration.entry)

variable (owner : OwnerType) (ds : List (Declaration σ))

theorem collected_append (d : Declaration σ) :
    collected owner (ds ++ [d]) = (collected owner ds).declare d.entry := by
  rw [collected, collected, declareAll, declareAll, List.map_append, List.map_singleton,
    List.foldl_concat]

theorem distinct_collected : (collected owner ds).Distinct :=
  (distinct_begin owner).declareAll _

/-- **What is found** for a member is what the last declaration for it says. -/
theorem find?_collected (name : String) (access : AccessType) :
    (collected owner ds).find? name access
      = (lastOf ds (name, access)).map fun last => last.1.entry := by
  induction ds using List.reverseRecOn with
  | nil => rfl
  | append_singleton earlier d ih =>
    rw [collected_append]
    by_cases h : d.member = (name, access)
    · have hself := (collected owner earlier).find?_declare_self d.entry
      obtain ⟨rfl, rfl⟩ := Prod.mk.inj (d.member_entry.trans h)
      rw [hself, ← h, lastOf_append_self, Option.map_some]
    · have hother : d.entry.isFor name access = false :=
        Bool.eq_false_iff.2 (mt d.isFor_entry_iff.1 h)
      rw [find?_declare_of_ne _ _ _ _ hother, lastOf_append_of_ne earlier h, ih]

/-- **The order of the list** is that of the last declarations. -/
theorem pairwise_collected :
    (collected owner ds).properties.Pairwise fun p q => ∀ first second,
      lastOf ds p.member = some first → lastOf ds q.member = some second → first.2 < second.2 := by
  induction ds using List.reverseRecOn with
  | nil => exact List.Pairwise.nil
  | append_singleton earlier d ih =>
    rw [collected_append, declare]
    -- what stays is for other members, whose last declarations stand where they stood
    have hstays : ∀ p ∈ (collected owner earlier).properties.filter
        (fun q => !q.isFor d.entry.name d.entry.access),
        lastOf (earlier ++ [d]) p.member = lastOf earlier p.member := by
      intro p hp
      refine lastOf_append_of_ne earlier fun hsame => ?_
      have hfor : p.isFor d.entry.name d.entry.access = true := by
        rw [PropertyMetadata.isFor_iff, ← hsame, ← d.member_entry]
        rfl
      simpa [hfor] using (List.mem_filter.1 hp).2
    refine List.pairwise_append.2 ⟨?_, List.pairwise_singleton _ _, ?_⟩
    · refine (ih.filter _).imp_of_mem fun {p q} hp hq horder => ?_
      rwa [hstays p hp, hstays q hq]
    · intro p hp q hq first second hfirst hsecond
      obtain rfl := List.mem_singleton.1 hq
      rw [hstays p hp] at hfirst
      rw [d.member_entry, lastOf_append_self, Option.some_inj] at hsecond
      subst hsecond
      exact (List.getElem?_eq_some_iff.1 (getElem?_of_lastOf hfirst)).1

/-- A lookup of a member sees the declarations for that member only. -/
theorem find?_collected_congr {ds es : List (Declaration σ)} {name : String} {access : AccessType}
    (h : (ds.filter fun d => d.member = (name, access))
      = es.filter fun d => d.member = (name, access)) :
    (collected owner ds).find? name access = (collected owner es).find? name access := by
  have hlast : ∀ fs : List (Declaration σ), (collected owner fs).find? name access
      = ((fs.filter fun d => d.member = (name, access)).getLast?).map Declaration.entry := by
    intro fs
    rw [find?_collected, ← map_fst_lastOf, Option.map_map]
    rfl
  rw [hlast, hlast, h]

/-! ## What is listed -/

variable {owner ds} {access : AccessType}

/-- Under one strategy a name is listed once. -/
theorem Distinct.nodup_names {m : TypeMetadata σ} (h : m.Distinct) (access : AccessType) :
    ((m.declaredUnder access).map DeclaredProperty.name).Nodup := by
  have hmembers : (m.properties.filter fun p => p.access = access).Pairwise
      fun p q => p.member ≠ q.member := (List.pairwise_map.1 h).filter _
  rw [declaredUnder, List.map_map, List.Nodup, List.pairwise_map]
  refine hmembers.imp_of_mem fun {p q} hp hq hne hname => hne ?_
  have hp' := of_decide_eq_true (List.mem_filter.1 hp).2
  have hq' := of_decide_eq_true (List.mem_filter.1 hq).2
  exact Prod.ext hname (hp'.trans hq'.symm)

theorem mem_declaredUnder_collected {d : DeclaredProperty} :
    d ∈ (collected owner ds).declaredUnder access ↔ d.access = access
      ∧ ∃ last position, lastOf ds (d.name, access) = some (last, position)
        ∧ d.writable = last.isWritable := by
  have hlisted : d ∈ (collected owner ds).declaredUnder access ∧ d.name = d.name
      ↔ ((collected owner ds).find? d.name access).map PropertyMetadata.declared = some d :=
    (distinct_collected owner ds).mem_declaredUnder_iff
  rw [and_iff_left rfl] at hlisted
  rw [hlisted, find?_collected, Option.map_map, Option.map_eq_some_iff]
  constructor
  · rintro ⟨⟨last, position⟩, hlast, hd⟩
    rw [Function.comp_apply, last.declared_entry (member_of_lastOf hlast)] at hd
    exact ⟨(congrArg DeclaredProperty.access hd).symm, last, position, hlast,
      (congrArg DeclaredProperty.writable hd).symm⟩
  · rintro ⟨haccess, last, position, hlast, hwritable⟩
    refine ⟨(last, position), hlast, ?_⟩
    rw [Function.comp_apply, last.declared_entry (member_of_lastOf hlast), ← haccess, ← hwritable]

/-- The list under one strategy has the order of the last declarations. -/
theorem pairwise_declaredUnder_collected :
    ((collected owner ds).declaredUnder access).Pairwise fun a b => ∀ first second,
      lastOf ds (a.name, access) = some first → lastOf ds (b.name, access) = some second →
      first.2 < second.2 := by
  rw [declaredUnder, List.pairwise_map]
  refine ((pairwise_collected owner ds).filter _).imp_of_mem fun {p q} hp hq horder => ?_
  obtain rfl := of_decide_eq_true (List.mem_filter.1 hp).2
  have hq' : q.access = p.access := of_decide_eq_true (List.mem_filter.1 hq).2
  intro first second hfirst hsecond
  refine horder first second hfirst ?_
  rw [PropertyMetadata.member, hq']
  exact hsecond

/-- A member that was declared has an entry. -/
theorem exists_find?_collected (owner : OwnerType) {d : Declaration σ} (h : d ∈ ds) {name : String}
    (hmember : d.member = (name, access)) :
    ∃ p, (collected owner ds).find? name access = some p ∧ p.member = (name, access) := by
  obtain ⟨last, position, hlast⟩ := exists_lastOf h
  rw [hmember] at hlast
  refine ⟨last.entry, ?_, last.member_entry.trans (member_of_lastOf hlast)⟩
  rw [find?_collected, hlast, Option.map_some]

/-- **One entry for a member.** After any sequence of declarations:

    * no two entries are for the same member under the same strategy;
    * what is found for a member under a strategy is read as the last declaration for it says, and
      written as that says, so that it can be written exactly if that made it so; without a declaration
      nothing is found;
    * under each strategy the list has exactly the names that were declared under it, each once and
      writable as last declared, in the order of the last declarations;
    * a name that is declared under both strategies has an entry under each, and what is found under
      one does not depend on the declarations under the other;
    * a declaration for another member, wherever it stands, changes nothing that is found. -/
theorem one_entry_per_member (owner : OwnerType) (ds : List (Declaration σ)) :
    let m := collected owner ds
    m.Distinct
      ∧ (∀ name access,
        (∀ last position, lastOf ds (name, access) = some (last, position) →
          ∃ p, m.find? name access = some p ∧ p.name = name ∧ p.access = access
            ∧ p.read = last.reader ∧ p.write = last.writer?
            ∧ (p.write.isSome = true ↔ last.isWritable = true))
        ∧ ((∀ d ∈ ds, d.member ≠ (name, access)) → m.find? name access = none))
      ∧ (∀ access,
        ((m.declaredUnder access).map DeclaredProperty.name).Nodup
        ∧ (∀ d : DeclaredProperty, d ∈ m.declaredUnder access ↔ d.access = access
          ∧ ∃ last position, lastOf ds (d.name, access) = some (last, position)
            ∧ d.writable = last.isWritable)
        ∧ (m.declaredUnder access).Pairwise fun a b => ∀ first second,
          lastOf ds (a.name, access) = some first → lastOf ds (b.name, access) = some second →
          first.2 < second.2)
      ∧ (∀ name,
        ((∃ d ∈ ds, d.member = (name, .field)) → (∃ d ∈ ds, d.member = (name, .property)) →
          ∃ p q, m.find? name .field = some p ∧ m.find? name .property = some q
            ∧ p ∈ m.properties ∧ q ∈ m.properties ∧ p.access = .field ∧ q.access = .property)
        ∧ ∀ access, m.find? name access
          = (collected owner (ds.filter fun d => d.member.2 = access)).find? name access)
      ∧ ∀ before d after, ds = before ++ d :: after → ∀ name access, d.member ≠ (name, access) →
        m.find? name access = (collected owner (before ++ after)).find? name access := by
  intro m
  refine ⟨distinct_collected owner ds, fun name access => ⟨?_, fun hnone => ?_⟩,
    fun access => ⟨(distinct_collected owner ds).nodup_names access,
      fun d => mem_declaredUnder_collected, pairwise_declaredUnder_collected⟩,
    fun name => ⟨?_, fun access => ?_⟩, ?_⟩
  · intro last position hlast
    obtain ⟨hname, haccess⟩ := Prod.mk.inj (last.member_entry.trans (member_of_lastOf hlast))
    refine ⟨last.entry, ?_, hname, haccess, last.read_entry, last.write_entry, ?_⟩
    · rw [find?_collected, hlast, Option.map_some]
    · rw [last.write_entry, last.isSome_writer?]
  · cases hfind : m.find? name access with
    | none => rfl
    | some p =>
      rw [find?_collected] at hfind
      obtain ⟨⟨last, position⟩, hlast, -⟩ := Option.map_eq_some_iff.1 hfind
      exact absurd (member_of_lastOf hlast)
        (hnone last (List.mem_of_getElem? (getElem?_of_lastOf hlast)))
  · rintro ⟨d, hd, hfield⟩ ⟨e, he, hproperty⟩
    obtain ⟨p, hp, hpmember⟩ := exists_find?_collected owner hd hfield
    obtain ⟨q, hq, hqmember⟩ := exists_find?_collected owner he hproperty
    exact ⟨p, q, hp, hq, List.mem_of_find?_eq_some hp, List.mem_of_find?_eq_some hq,
      congrArg Prod.snd hpmember, congrArg Prod.snd hqmember⟩
  · refine find?_collected_congr owner ?_
    rw [List.filter_filter]
    refine List.filter_congr fun d _ => ?_
    by_cases h : d.member = (name, access) <;> simp [h]
  · rintro before d after rfl name access hne
    refine find?_collected_congr owner ?_
    rw [List.filter_append, List.filter_append, List.filter_cons_of_neg (by simpa using hne)]

/-- Whole numbers as data. -/
def numberCodec : Codec Nat := ⟨Json.ofNat, Json.asUnsigned "u64" 64⟩

/-- An instance that is a number, as its own member. -/
def wholeMember : Member Nat Nat := ⟨id, fun _ number => number⟩

/-- A member under both strategies, of which the one is declared again as one to be read only, and
    shows the number after the next. -/
def redeclaredTotal : List (Declaration Nat) :=
  [.field "total" numberCodec wholeMember, .property "total" numberCodec wholeMember,
    .field "label" numberCodec wholeMember, .readOnly "total" .field numberCodec (· + 2)]

/-- The field is read as declared last, cannot be written, and is listed last; the property has an entry
    of its own and can still be written. Without the label the member is found as with it. -/
theorem one_entry_per_member_redeclared :
    (∃ last, lastOf redeclaredTotal ("total", .field) = some (last, 3) ∧ last.isWritable = false)
      ∧ (∃ p, (collected (.named "Order") redeclaredTotal).find? "total" .field = some p
        ∧ p.read 5 = .int 7 ∧ p.write = none)
      ∧ (∃ q, (collected (.named "Order") redeclaredTotal).find? "total" .property = some q
        ∧ q.read 5 = .int 5 ∧ q.write.isSome = true)
      ∧ (∃ p ∈ (collected (.named "Order") redeclaredTotal).properties,
        ∃ q ∈ (collected (.named "Order") redeclaredTotal).properties,
          p.access = .field ∧ q.access = .property)
      ∧ (collected (.named "Order") redeclaredTotal).find? "label" .property = none
      ∧ (collected (.named "Order") redeclaredTotal).declaredUnder .field
        = [⟨"label", .field, true⟩, ⟨"total", .field, false⟩]
      ∧ (collected (.named "Order") redeclaredTotal).find? "total" .field
        = (collected (.named "Order") (redeclaredTotal.eraseIdx 2)).find? "total" .field := by
  obtain ⟨-, hfound, -, hboth, hother⟩ := one_entry_per_member (.named "Order") redeclaredTotal
  obtain ⟨p, hp, -, -, hread, hwrite, -⟩ := (hfound "total" .field).1 _ 3 rfl
  obtain ⟨q, hq, -, -, hqread, -, hwritable⟩ := (hfound "total" .property).1 _ 1 rfl
  obtain ⟨first, second, -, -, hfirst, hsecond, hfield, hproperty⟩ :=
    (hboth "total").1 ⟨redeclaredTotal[0], by simp [redeclaredTotal], rfl⟩
      ⟨redeclaredTotal[1], by simp [redeclaredTotal], rfl⟩
  refine ⟨⟨_, rfl, rfl⟩, ⟨p, hp, by rw [hread]; rfl, hwrite⟩,
    ⟨q, hq, by rw [hqread]; rfl, hwritable.2 rfl⟩,
    ⟨first, hfirst, second, hsecond, hfield, hproperty⟩,
    (hfound "label" .property).2 (by decide), by decide, ?_⟩
  exact hother (redeclaredTotal.take 2) (.field "label" numberCodec wholeMember)
    (redeclaredTotal.drop 3) rfl "total" .field (by decide)

end TypeMetadata

end UnitBinding
