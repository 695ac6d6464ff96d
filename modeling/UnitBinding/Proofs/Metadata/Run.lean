import Mathlib.Data.List.Induction
import UnitBinding.Proofs.Cache.Lookup
import UnitBinding.Proofs.Metadata.Declarations

set_option autoImplicit false

/-! # Runs of a registry of metadata

Types are registered, with declarations collected before or on the spot, and taken away. Of all that
happens to a registry, what it knows about a type depends on the last event for that type alone
(`Metadata.get?_after`): a registration replaces whatever there was, and events for other types change
nothing.

Three searches go through what is known about a type: the list of declared properties, the resolution of
handles, and the lookups by name. `Metadata.answers_agree` says how their answers fit together after
every run. -/

namespace UnitBinding

variable {σ : Type}

/-! ## Events -/

/-- Declarations of one type that were collected one after the other. -/
structure CollectedMetadata (σ : Type) where
  declarations : TypeMetadata σ
  collected : ∃ properties,
    declarations = (TypeMetadata.begin declarations.owner).declareAll properties

/-- What can happen to a registry. -/
inductive MetadataEvent (σ : Type) where
  /-- Declarations that were collected before are registered. -/
  | register (collected : CollectedMetadata σ)
  /-- Declarations of a type are collected and registered. -/
  | registerType (owner : OwnerType) (properties : List (PropertyMetadata σ))
  /-- A type is taken away. -/
  | remove (owner : OwnerType)

namespace MetadataEvent

/-- The type that an event is for. -/
def owner : MetadataEvent σ → OwnerType
  | .register collected => collected.declarations.owner
  | .registerType owner _ | .remove owner => owner

/-- What the type declares after an event, if it is known then. -/
def leaves : MetadataEvent σ → Option (TypeMetadata σ)
  | .register collected => some collected.declarations
  | .registerType owner properties => some ((TypeMetadata.begin owner).declareAll properties)
  | .remove _ => none

/-- The properties that the type declares under a strategy after an event. -/
def leavesUnder (event : MetadataEvent σ) (access : AccessType) : List DeclaredProperty :=
  (event.leaves.map fun m => m.declaredUnder access).getD []

/-- Whatever is registered was collected. -/
theorem distinct_of_leaves {event : MetadataEvent σ} {m : TypeMetadata σ}
    (h : event.leaves = some m) : m.Distinct := by
  cases event with
  | register collected =>
    obtain ⟨properties, hcollected⟩ := collected.collected
    rw [← Option.some.inj h, hcollected]
    exact (TypeMetadata.distinct_begin _).declareAll properties
  | registerType owner properties =>
    rw [← Option.some.inj h]
    exact (TypeMetadata.distinct_begin owner).declareAll properties
  | remove owner => cases h

end MetadataEvent

/-- Collecting does not change the type. -/
theorem TypeMetadata.owner_declareAll (m : TypeMetadata σ) (ps : List (PropertyMetadata σ)) :
    (m.declareAll ps).owner = m.owner := by
  induction ps generalizing m with
  | nil => rfl
  | cons p rest ih => exact ih (m.declare p)

namespace Metadata

/-! ## Runs -/

/-- The registry after an event. -/
def step (r : Metadata σ) : MetadataEvent σ → Metadata σ
  | .register collected => r.register collected.declarations
  | .registerType owner properties => r.register ((TypeMetadata.begin owner).declareAll properties)
  | .remove owner => r.remove owner

/-- A new registry after some events. -/
def after (events : List (MetadataEvent σ)) : Metadata σ := events.foldl step empty

/-- **One event** settles what is known about its type, and leaves all others alone. -/
theorem get?_step (r : Metadata σ) (event : MetadataEvent σ) (owner : OwnerType) :
    (r.step event).get? owner = if event.owner = owner then event.leaves else r.get? owner := by
  cases event with
  | register collected =>
    split
    · rename_i hown
      subst hown
      exact r.get?_register_self collected.declarations
    · rename_i hother
      exact r.get?_register_of_ne collected.declarations owner (Ne.symm hother)
  | registerType registered properties =>
    have howner : ((TypeMetadata.begin registered).declareAll properties).owner = registered :=
      TypeMetadata.owner_declareAll _ properties
    split
    · rename_i hown
      have hself := r.get?_register_self ((TypeMetadata.begin registered).declareAll properties)
      rw [howner] at hself
      rw [← hown]
      exact hself
    · rename_i hother
      exact r.get?_register_of_ne _ owner (howner.symm ▸ Ne.symm hother)
  | remove removed =>
    split
    · rename_i hown
      rw [← hown]
      exact r.get?_remove_self removed
    · rename_i hother
      exact r.get?_remove_of_ne removed owner (Ne.symm hother)

/-- The last event for a type. -/
def lastFor (owner : OwnerType) (events : List (MetadataEvent σ)) : Option (MetadataEvent σ) :=
  (events.filter fun event => event.owner = owner).getLast?

theorem lastFor_append_self (events : List (MetadataEvent σ)) (event : MetadataEvent σ) :
    lastFor event.owner (events ++ [event]) = some event := by
  rw [lastFor, List.filter_append, List.filter_cons_of_pos (by simp), List.filter_nil,
    List.getLast?_concat]

theorem lastFor_append_of_ne (events : List (MetadataEvent σ)) {event : MetadataEvent σ}
    {owner : OwnerType} (h : event.owner ≠ owner) :
    lastFor owner (events ++ [event]) = lastFor owner events := by
  rw [lastFor, List.filter_append, List.filter_cons_of_neg (by simpa using h), List.filter_nil,
    List.append_nil, lastFor]

/-- **A run.** What is known about a type is what the last event for it left. The induction takes events
    off the end, where the last one is. -/
theorem get?_after (events : List (MetadataEvent σ)) (owner : OwnerType) :
    (after events).get? owner = (lastFor owner events).bind MetadataEvent.leaves := by
  induction events using List.reverseRecOn with
  | nil => rfl
  | append_singleton earlier event ih =>
    have hafter : after (earlier ++ [event]) = (after earlier).step event := List.foldl_concat ..
    rw [hafter, get?_step]
    split
    · rename_i hown
      rw [← hown, lastFor_append_self, Option.bind_some]
    · rename_i hother
      rw [lastFor_append_of_ne earlier hother, ih]

theorem distinct_after (events : List (MetadataEvent σ)) : (after events).Distinct := by
  intro owner m hm
  rw [get?_after] at hm
  obtain ⟨event, -, hleaves⟩ := Option.bind_eq_some_iff.1 hm
  exact MetadataEvent.distinct_of_leaves hleaves

/-! ## Answers about one type -/

/-- Two registries answer every question about a type alike. -/
structure AgreeOn (r s : Metadata σ) (owner : OwnerType) : Prop where
  declared : ∀ access, r.declaredProperties owner access = s.declaredProperties owner access
  getter : ∀ name access, r.getter owner name access = s.getter owner name access
  setter : ∀ name access, r.setter owner name access = s.setter owner name access
  findWith : ∀ name access, findPropertyWith r.declaredProperties owner name access
    = findPropertyWith s.declaredProperties owner name access
  find : ∀ name, findProperty r.declaredProperties owner name
    = findProperty s.declaredProperties owner name

theorem agreeOn_of_get?_eq {r s : Metadata σ} {owner : OwnerType}
    (h : r.get? owner = s.get? owner) : r.AgreeOn s owner := by
  have hdeclared : ∀ access, r.declaredProperties owner access = s.declaredProperties owner access := by
    intro access
    rw [declaredProperties, declaredProperties, h]
  have hfind : ∀ name access, r.find? owner name access = s.find? owner name access := by
    intro name access
    rw [find?, find?, h]
  have hwith : ∀ name access, findPropertyWith r.declaredProperties owner name access
      = findPropertyWith s.declaredProperties owner name access := by
    intro name access
    rw [findPropertyWith, findPropertyWith, hdeclared]
  refine ⟨hdeclared, fun name access => ?_, fun name access => ?_, hwith, fun name => ?_⟩
  · rw [Metadata.getter, Metadata.getter, hfind]
  · rw [Metadata.setter, Metadata.setter, hfind]
  · rw [findProperty, findProperty]
    simp only [hwith]

/-- A lenient lookup takes the field, or else the property. -/
theorem findProperty_eq (source : PropertySource) (owner : OwnerType) (name : String) :
    findProperty source owner name
      = (findPropertyWith source owner name .field).or
        (findPropertyWith source owner name .property) := by
  rw [findProperty, AccessType.all, List.findSome?_cons, List.findSome?_cons, List.findSome?_nil]
  cases findPropertyWith source owner name .field with
  | some found => rfl
  | none => cases findPropertyWith source owner name .property <;> rfl

/-! ## Searches for one member -/

/-- The searches for a member under a strategy answer alike. -/
structure SearchesAgree (r : Metadata σ) (owner : OwnerType) (name : String) (access : AccessType) :
    Prop where
  /-- A getter is resolved exactly if the member is declared … -/
  getter : (∃ g, r.getter owner name access = .ok g)
    ↔ ∃ d ∈ r.declaredProperties owner access, d.name = name
  /-- … and a setter exactly if it is declared as writable. -/
  setter : (∃ s, r.setter owner name access = .ok s)
    ↔ ∃ d ∈ r.declaredProperties owner access, d.name = name ∧ d.writable = true
  getterFor : ∀ g, r.getter owner name access = .ok g →
    g.owner = owner ∧ g.name = name ∧ g.access = access
  setterFor : ∀ s, r.setter owner name access = .ok s →
    s.owner = owner ∧ s.name = name ∧ s.access = access
  getterError : ∀ err, r.getter owner name access = .error err →
    err = .propertyNotFound owner.name name access .read
  setterError : ∀ err, r.setter owner name access = .error err →
    err = .propertyNotFound owner.name name access .write
  /-- A lookup under the strategy succeeds exactly if a getter is resolved … -/
  lookup : (∃ d, findPropertyWith r.declaredProperties owner name access = some d)
    ↔ ∃ g, r.getter owner name access = .ok g
  /-- … and finds what is declared for the member. -/
  found : ∀ d, findPropertyWith r.declaredProperties owner name access = some d
    ↔ d ∈ r.declaredProperties owner access ∧ d.name = name

/-- One declaration for a member is what the searches need. -/
theorem Distinct.searchesAgree {r : Metadata σ} (h : r.Distinct) (owner : OwnerType) (name : String)
    (access : AccessType) : r.SearchesAgree owner name access where
  getter := by
    rw [getter_eq_ok_iff]
    constructor
    · rintro ⟨p, hp⟩
      exact ⟨p.declared, h.mem_declaredProperties_iff.2 (congrArg (Option.map _) hp)⟩
    · rintro ⟨d, hd⟩
      obtain ⟨p, hp, -⟩ := Option.map_eq_some_iff.1 (h.mem_declaredProperties_iff.1 hd)
      exact ⟨p, hp⟩
  setter := by
    rw [setter_eq_ok_iff]
    constructor
    · rintro ⟨p, hp, hwrite⟩
      have hdeclared := h.mem_declaredProperties_iff.2 (congrArg (Option.map _) hp)
      exact ⟨p.declared, hdeclared.1, hdeclared.2, hwrite⟩
    · rintro ⟨d, hmem, hname, hwritable⟩
      obtain ⟨p, hp, rfl⟩ := Option.map_eq_some_iff.1 (h.mem_declaredProperties_iff.1 ⟨hmem, hname⟩)
      exact ⟨p, hp, hwritable⟩
  getterFor g hg := resolve_ok (show r.resolve .getter owner name access = .ok g from hg)
  setterFor s hs := resolve_ok (show r.resolve .setter owner name access = .ok s from hs)
  getterError err herr :=
    resolve_error (show r.resolve .getter owner name access = .error err from herr)
  setterError err herr :=
    resolve_error (show r.resolve .setter owner name access = .error err from herr)
  lookup := by
    rw [findPropertyWith_eq, getter_eq_ok_iff]
    cases r.find? owner name access <;> simp
  found d := by
    rw [findPropertyWith_eq, h.mem_declaredProperties_iff]

/-- Whether a getter is resolved shows in a lookup. -/
theorem isOk_getter (r : Metadata σ) (owner : OwnerType) (name : String) (access : AccessType) :
    (r.getter owner name access).isOk
      = (findPropertyWith r.declaredProperties owner name access).isSome := by
  rw [findPropertyWith_eq, Metadata.getter]
  cases r.find? owner name access <;> rfl

/-- **Declarations, handles and lookups agree.** After any registrations and removals, and for every
    member of every type:

    * under each strategy the declared list, both kinds of handles and the lookup agree about the
      member, and every failure names the type, the member, the strategy and the mode;
    * a lookup without a strategy takes the field if a getter is resolved for it, else the property if a
      getter is resolved for that, and else finds nothing;
    * events for other types, also for those with the same name, change no answer, and one more event
      for the type, such as a registration, replaces all that it declares. -/
theorem answers_agree (events : List (MetadataEvent σ)) (owner : OwnerType) (name : String) :
    let r := after events
    (∀ access, r.SearchesAgree owner name access)
      ∧ findProperty r.declaredProperties owner name
        = (if (r.getter owner name .field).isOk then
            findPropertyWith r.declaredProperties owner name .field
          else if (r.getter owner name .property).isOk then
            findPropertyWith r.declaredProperties owner name .property
          else none)
      ∧ r.AgreeOn (after (events.filter fun event => event.owner = owner)) owner
      ∧ ∀ event : MetadataEvent σ, event.owner = owner → ∀ access,
        (after (events ++ [event])).declaredProperties owner access = event.leavesUnder access := by
  intro r
  refine ⟨fun access => (distinct_after events).searchesAgree owner name access, ?_, ?_, ?_⟩
  · rw [findProperty_eq, isOk_getter, isOk_getter]
    cases findPropertyWith r.declaredProperties owner name .field with
    | some d => rfl
    | none => cases findPropertyWith r.declaredProperties owner name .property <;> rfl
  · -- the last event for the type is the same without the events for the others
    refine agreeOn_of_get?_eq ?_
    rw [get?_after, get?_after, lastFor, lastFor, List.filter_filter]
    simp only [Bool.and_self]
  · rintro event rfl access
    rw [declaredProperties, get?_after, lastFor_append_self, Option.bind_some,
      MetadataEvent.leavesUnder]
    cases event.leaves <;> rfl

/-- A member that can be read. -/
def readableTotal (access : AccessType) : PropertyMetadata Nat :=
  ⟨"total", access, fun state => .str (toString state), none⟩

/-- The member as one that can be written as well. -/
def writableTotal (access : AccessType) : PropertyMetadata Nat :=
  { readableTotal access with write := some fun state _ => .ok (state + 1) }

/-- A member is declared anew as one to be read only, under one of its two strategies; another type is
    registered and taken away. -/
def redeclaring : List (MetadataEvent Nat) :=
  [.registerType (.named "Order") [writableTotal .field],
    .registerType (.named "Order") [writableTotal .field, writableTotal .property, readableTotal .field],
    .registerType (.named "Invoice") [writableTotal .field], .remove (.named "Invoice")]

/-- The member is found as a field without a writer, and cannot be set as one. Another type with the
    same name has no such member. -/
theorem answers_agree_redeclared :
    (MetadataEvent.remove (σ := Nat) (.named "Invoice")).owner = .named "Invoice"
      ∧ (∀ g, (after redeclaring).getter (.named "Invoice") "total" .field ≠ .ok g)
      ∧ (∀ g, (after redeclaring).getter ⟨"Order", 1⟩ "total" .field ≠ .ok g)
      ∧ findProperty (after redeclaring).declaredProperties (.named "Order") "total"
        = some ⟨"total", .field, false⟩
      ∧ (∃ s, (after redeclaring).setter (.named "Order") "total" .property = .ok s)
      ∧ ∀ s, (after redeclaring).setter (.named "Order") "total" .field ≠ .ok s := by
  obtain ⟨horder, hfind, -, -⟩ := answers_agree redeclaring (.named "Order") "total"
  obtain ⟨hinvoice, -, -, -⟩ := answers_agree redeclaring (.named "Invoice") "total"
  obtain ⟨htwin, -, -, -⟩ := answers_agree redeclaring ⟨"Order", 1⟩ "total"
  obtain ⟨-, -, -, hlast⟩ := answers_agree redeclaring.dropLast (.named "Invoice") "total"
  have hnone : (after redeclaring).declaredProperties (.named "Invoice") .field = [] :=
    hlast (.remove (.named "Invoice")) rfl .field
  have hfield : (after redeclaring).declaredProperties (.named "Order") .field
      = [⟨"total", .field, false⟩] := by decide
  refine ⟨rfl, fun g hg => ?_, fun g hg => ?_, hfind.trans (by decide), ?_, fun s hs => ?_⟩
  · obtain ⟨d, hd, -⟩ := (hinvoice .field).getter.1 ⟨g, hg⟩
    rw [hnone] at hd
    cases hd
  · obtain ⟨d, hd, -⟩ := (htwin .field).getter.1 ⟨g, hg⟩
    cases hd
  · exact (horder .property).setter.2 ⟨⟨"total", .property, true⟩, by decide, rfl, rfl⟩
  · obtain ⟨d, hd, -, hwritable⟩ := (horder .field).setter.1 ⟨s, hs⟩
    rw [hfield, List.mem_singleton] at hd
    rw [hd] at hwritable
    cases hwritable

end Metadata

end UnitBinding
