import Mathlib.Data.List.Induction
import Mathlib.Data.List.Nodup
import UnitBinding.Lookup

set_option autoImplicit false

/-! # Searching declarations

A handle is resolved from the first declaration of a member under a strategy, and a lookup by name goes
through the list of what is declared under a strategy. Both searches find the same
(`find?_declaredUnder`). That the first declaration tells everything about a member takes more:
declarations are collected one after the other, a later one in the place of an earlier one for the same
member, so none is declared twice under one strategy (`TypeMetadata.Distinct`). -/

namespace UnitBinding

variable {σ : Type}

/-- What a declaration is for: a member under a strategy. -/
def PropertyMetadata.member (p : PropertyMetadata σ) : String × AccessType := (p.name, p.access)

theorem PropertyMetadata.isFor_iff {p : PropertyMetadata σ} {name : String} {access : AccessType} :
    p.isFor name access = true ↔ p.member = (name, access) := by
  rw [isFor, Bool.and_eq_true, decide_eq_true_eq, decide_eq_true_eq, member, Prod.mk.injEq]

namespace TypeMetadata

variable {m : TypeMetadata σ} {name : String} {access : AccessType}

/-! ## One declaration for a member -/

/-- No member is declared twice under one strategy. -/
def Distinct (m : TypeMetadata σ) : Prop := (m.properties.map PropertyMetadata.member).Nodup

theorem distinct_begin (owner : OwnerType) : (begin owner : TypeMetadata σ).Distinct :=
  List.nodup_nil

/-- Of the earlier declarations only those for other members stay. -/
theorem Distinct.declare (h : m.Distinct) (p : PropertyMetadata σ) : (m.declare p).Distinct := by
  rw [Distinct, TypeMetadata.declare, List.map_append, List.map_singleton, List.nodup_append]
  refine ⟨h.sublist (List.filter_sublist.map _), List.nodup_singleton _, ?_⟩
  intro other hother member hmember
  obtain ⟨q, hq, rfl⟩ := List.mem_map.1 hother
  rw [List.mem_singleton.1 hmember]
  intro hsame
  have hfor : q.isFor p.name p.access = true := PropertyMetadata.isFor_iff.2 hsame
  simpa [hfor] using (List.mem_filter.1 hq).2

theorem Distinct.declareAll (h : m.Distinct) (ps : List (PropertyMetadata σ)) :
    (m.declareAll ps).Distinct := by
  induction ps generalizing m with
  | nil => exact h
  | cons p rest ih => exact ih (h.declare p)

/-- The last declaration for a member is the one that counts. -/
theorem find?_declareAll_of_last (m : TypeMetadata σ) (earlier : List (PropertyMetadata σ))
    (p : PropertyMetadata σ) {later : List (PropertyMetadata σ)}
    (hlater : ∀ q ∈ later, q.isFor p.name p.access = false) :
    (m.declareAll (earlier ++ p :: later)).find? p.name p.access = some p := by
  unfold declareAll
  rw [List.foldl_append, List.foldl_cons]
  generalize List.foldl TypeMetadata.declare m earlier = before
  induction later using List.reverseRecOn with
  | nil => exact before.find?_declare_self p
  | append_singleton between q ih =>
    rw [List.foldl_append, List.foldl_cons, List.foldl_nil]
    rw [find?_declare_of_ne _ q _ _ (hlater q (by simp))]
    exact ih fun other hother => hlater other (by simp [hother])

/-- A search finds the declaration for a member, if there is one. -/
theorem Distinct.find?_eq_some_iff (h : m.Distinct) {p : PropertyMetadata σ} :
    m.find? name access = some p ↔ p ∈ m.properties ∧ p.isFor name access = true := by
  constructor
  · intro hfind
    exact ⟨List.mem_of_find?_eq_some hfind, List.find?_some hfind⟩
  · rintro ⟨hp, hfor⟩
    cases hfind : m.find? name access with
    | none => exact absurd hfor (List.find?_eq_none.1 hfind p hp)
    | some q =>
      have hsame : q.member = p.member := by
        rw [PropertyMetadata.isFor_iff.1 (List.find?_some hfind), PropertyMetadata.isFor_iff.1 hfor]
      rw [List.inj_on_of_nodup_map h (List.mem_of_find?_eq_some hfind) hp hsame]

/-! ## The declared list -/

/-- Searching what is declared under a strategy comes to searching all declarations. -/
theorem find?_declaredUnder (m : TypeMetadata σ) (name : String) (access : AccessType) :
    (m.declaredUnder access).find? (fun p => p.name = name)
      = (m.find? name access).map PropertyMetadata.declared := by
  rw [declaredUnder, List.find?_map, List.find?_filter, TypeMetadata.find?]
  congr 2
  funext p
  rw [Bool.decide_and, Bool.decide_eq_true, Bool.decide_eq_true, Bool.and_comm]
  rfl

/-- The list has the one declaration for a member, if there is one. -/
theorem Distinct.mem_declaredUnder_iff (h : m.Distinct) {d : DeclaredProperty} :
    d ∈ m.declaredUnder access ∧ d.name = name
      ↔ (m.find? name access).map PropertyMetadata.declared = some d := by
  rw [Option.map_eq_some_iff, declaredUnder, List.mem_map]
  constructor
  · rintro ⟨⟨p, hp, rfl⟩, rfl⟩
    rw [List.mem_filter, decide_eq_true_eq] at hp
    exact ⟨p, h.find?_eq_some_iff.2 ⟨hp.1, PropertyMetadata.isFor_iff.2 (Prod.ext rfl hp.2)⟩, rfl⟩
  · rintro ⟨p, hp, rfl⟩
    obtain ⟨hmem, hfor⟩ := h.find?_eq_some_iff.1 hp
    obtain ⟨hname, haccess⟩ := Prod.mk.inj (PropertyMetadata.isFor_iff.1 hfor)
    exact ⟨⟨p, List.mem_filter.2 ⟨hmem, decide_eq_true haccess⟩, rfl⟩, hname⟩

end TypeMetadata

namespace Metadata

variable {r : Metadata σ} {owner : OwnerType} {name : String} {access : AccessType}

/-! ## Searches in a registry -/

/-- A lookup by name finds the declaration that handles are resolved from. -/
theorem findPropertyWith_eq (r : Metadata σ) (owner : OwnerType) (name : String)
    (access : AccessType) :
    findPropertyWith r.declaredProperties owner name access
      = (r.find? owner name access).map PropertyMetadata.declared := by
  rw [findPropertyWith, declaredProperties, find?]
  cases r.get? owner with
  | none => rfl
  | some m => exact m.find?_declaredUnder name access

/-- A getter is resolved from any declaration … -/
theorem getter_eq_ok_iff :
    (∃ g, r.getter owner name access = .ok g) ↔ ∃ p, r.find? owner name access = some p := by
  rw [getter]
  cases r.find? owner name access with
  | none => simp
  | some p => simp

/-- … and a setter from a declaration with a writer. -/
theorem setter_eq_ok_iff :
    (∃ s, r.setter owner name access = .ok s)
      ↔ ∃ p, r.find? owner name access = some p ∧ p.write.isSome = true := by
  rw [setter]
  cases r.find? owner name access with
  | none => simp
  | some p => cases hwrite : p.write <;> simp [hwrite]

/-- The registry holds no type with a member declared twice. -/
def Distinct (r : Metadata σ) : Prop :=
  ∀ owner m, r.get? owner = some m → m.Distinct

/-- What is declared for a member is the one declaration found for it. -/
theorem Distinct.mem_declaredProperties_iff (h : r.Distinct) {d : DeclaredProperty} :
    d ∈ r.declaredProperties owner access ∧ d.name = name
      ↔ (r.find? owner name access).map PropertyMetadata.declared = some d := by
  rw [declaredProperties, find?]
  cases hm : r.get? owner with
  | none => simp
  | some m => exact (h owner m hm).mem_declaredUnder_iff

end Metadata

end UnitBinding
