import UnitBinding.Proofs.Cache.Map

set_option autoImplicit false

/-! # One lookup of either kind

Getters and setters are looked up alike, each kind in a map of its own. `AccessorKind` names the
two, so that what holds of both is said once: `AccessorCache.find` is the lookup of a kind, `mapOf`
its map and `Metadata.resolve` the resolution behind it. A request is `Refused` if it names no
member or has a tag that names no strategy; `find_of_refused` and `find_of_accepted` are all that
is needed of a lookup. -/

namespace UnitBinding

/-! ## Kinds of accessors -/

/-- What an accessor is for. -/
inductive AccessorKind where
  | getter
  | setter
  deriving DecidableEq, Inhabited

namespace AccessorKind

variable {σ : Type}

/-- The handles of a kind. -/
abbrev Handle (σ : Type) : AccessorKind → Type
  | .getter => Getter σ
  | .setter => Setter σ

/-- What a handle of a kind is used for. -/
def mode : AccessorKind → AccessMode
  | .getter => .read
  | .setter => .write

/-- The type that a handle was resolved for. -/
def ownerOf : (kind : AccessorKind) → kind.Handle σ → OwnerType
  | .getter, g => g.owner
  | .setter, s => s.owner

/-- The member that a handle reads or writes. -/
def nameOf : (kind : AccessorKind) → kind.Handle σ → String
  | .getter, g => g.name
  | .setter, s => s.name

/-- The strategy that a handle was resolved with. -/
def accessOf : (kind : AccessorKind) → kind.Handle σ → AccessType
  | .getter, g => g.access
  | .setter, s => s.access

end AccessorKind

variable {σ : Type}

/-- Resolve a handle of a kind. -/
def Metadata.resolve (metadata : Metadata σ) (kind : AccessorKind) (owner : OwnerType)
    (name : String) (access : AccessType) : Except Error (kind.Handle σ) :=
  match kind with
  | .getter => metadata.getter owner name access
  | .setter => metadata.setter owner name access

/-- A resolved handle is for what was asked. -/
theorem Metadata.resolve_ok {metadata : Metadata σ} {kind : AccessorKind} {owner : OwnerType}
    {name : String} {access : AccessType} {handle : kind.Handle σ}
    (h : metadata.resolve kind owner name access = .ok handle) :
    kind.ownerOf handle = owner ∧ kind.nameOf handle = name ∧ kind.accessOf handle = access := by
  cases kind with
  | getter =>
    simp only [resolve, getter] at h
    split at h
    · rename_i p hp
      obtain ⟨m, -, hm⟩ := Option.bind_eq_some_iff.1 hp
      have hname : p.name = name := by
        have hfor := List.find?_some hm
        simp only [PropertyMetadata.isFor, Bool.and_eq_true, decide_eq_true_eq] at hfor
        exact hfor.1
      obtain rfl := Except.ok.inj h
      exact ⟨rfl, hname, rfl⟩
    · cases h
  | setter =>
    simp only [resolve, setter] at h
    split at h
    · obtain rfl := Except.ok.inj h
      exact ⟨rfl, rfl, rfl⟩
    · cases h

/-- A failed resolution says what was asked for. -/
theorem Metadata.resolve_error {metadata : Metadata σ} {kind : AccessorKind} {owner : OwnerType}
    {name : String} {access : AccessType} {err : Error}
    (h : metadata.resolve kind owner name access = .error err) :
    err = .propertyNotFound owner.name name access kind.mode := by
  cases kind with
  | getter =>
    simp only [resolve, getter] at h
    split at h
    · cases h
    · exact (Except.error.inj h).symm
  | setter =>
    simp only [resolve, setter] at h
    split at h
    · cases h
    · exact (Except.error.inj h).symm

/-! ## Requests -/

namespace PropertyRequest

/-- The member that is asked for. -/
def memberName : PropertyRequest → String
  | .named name _ | .tagged name _ => name
  | .mapped property => property.beanName

/-- The tag, if the strategy is given by one. -/
def tag? : PropertyRequest → Option String
  | .tagged _ tag => some tag
  | .named .. | .mapped _ => none

/-- The strategy that is asked for, unless the tag names none. -/
def access? : PropertyRequest → Option AccessType
  | .named _ access => some access
  | .mapped property => some property.access
  | .tagged _ tag => AccessType.ofTag? tag

/-- The request names no member, or its tag is not exactly that of a strategy. -/
def Refused (request : PropertyRequest) : Prop :=
  request.memberName = "" ∨ ∃ tag, request.tag? = some tag ∧ tag ≠ "field" ∧ tag ≠ "property"

/-- A text that is neither tag names no strategy. -/
theorem ofTag?_eq_none_iff {tag : String} :
    AccessType.ofTag? tag = none ↔ tag ≠ "field" ∧ tag ≠ "property" := by
  unfold AccessType.ofTag?
  by_cases hfield : tag = "field"
  · simp [hfield]
  · by_cases hproperty : tag = "property" <;> simp [hfield, hproperty]

/-- What a request asks for, unless its tag names no strategy. -/
theorem resolve_eq (request : PropertyRequest) :
    (∃ access, request.access? = some access
        ∧ request.resolve = .ok (request.memberName, access))
      ∨ ∃ tag, request.tag? = some tag ∧ tag ≠ "field" ∧ tag ≠ "property"
        ∧ request.resolve = .error (unknownTag tag) := by
  cases request with
  | named name access => exact Or.inl ⟨access, rfl, rfl⟩
  | mapped property => exact Or.inl ⟨property.access, rfl, rfl⟩
  | tagged name tag =>
    cases htag : AccessType.ofTag? tag with
    | some access =>
      refine Or.inl ⟨access, htag, ?_⟩
      simp only [PropertyRequest.resolve, parseTag, htag, Except.map, memberName]
    | none =>
      obtain ⟨hfield, hproperty⟩ := ofTag?_eq_none_iff.1 htag
      refine Or.inr ⟨tag, rfl, hfield, hproperty, ?_⟩
      simp only [PropertyRequest.resolve, parseTag, htag, Except.map]

/-- The tag of a request with a strategy is no obstacle. -/
theorem tag?_of_access? {request : PropertyRequest} {access : AccessType}
    (h : request.access? = some access) {tag : String} (htag : request.tag? = some tag) :
    ¬ (tag ≠ "field" ∧ tag ≠ "property") := by
  cases request with
  | named name access => cases htag
  | mapped property => cases htag
  | tagged name text =>
    obtain rfl := Option.some.inj htag
    intro hne
    rw [access?, ofTag?_eq_none_iff.2 hne] at h
    cases h

/-- A request for a member under a strategy is not refused. -/
theorem not_refused {request : PropertyRequest} {access : AccessType}
    (hname : request.memberName ≠ "") (haccess : request.access? = some access) :
    ¬ request.Refused := by
  rintro (hempty | ⟨tag, htag, hne⟩)
  · exact hname hempty
  · exact tag?_of_access? haccess htag hne

end PropertyRequest

/-! ## The maps of a cache -/

/-- Keep the entries with certain keys. -/
def CacheMap.evict {H : Type} (map : CacheMap H) (keep : AccessorKey → Bool) : CacheMap H :=
  ⟨map.entries.filter fun e => keep e.key⟩

namespace AccessorCache

/-- The map of a kind. -/
def mapOf (cache : AccessorCache σ) : (kind : AccessorKind) → CacheMap (kind.Handle σ)
  | .getter => cache.getters
  | .setter => cache.setters

/-- Replace the map of a kind. -/
def withMap (cache : AccessorCache σ) : (kind : AccessorKind) → CacheMap (kind.Handle σ) →
    AccessorCache σ
  | .getter, map => { cache with getters := map }
  | .setter, map => { cache with setters := map }

@[simp] theorem limits_withMap (cache : AccessorCache σ) (kind : AccessorKind)
    (map : CacheMap (kind.Handle σ)) : (cache.withMap kind map).limits = cache.limits := by
  cases kind <;> rfl

@[simp] theorem mapOf_withMap_self (cache : AccessorCache σ) (kind : AccessorKind)
    (map : CacheMap (kind.Handle σ)) : (cache.withMap kind map).mapOf kind = map := by
  cases kind <;> rfl

theorem mapOf_withMap_of_ne (cache : AccessorCache σ) {kind other : AccessorKind}
    (map : CacheMap (kind.Handle σ)) (h : other ≠ kind) :
    (cache.withMap kind map).mapOf other = cache.mapOf other := by
  cases kind <;> cases other <;> first | rfl | exact absurd rfl h

@[simp] theorem withMap_mapOf (cache : AccessorCache σ) (kind : AccessorKind) :
    cache.withMap kind (cache.mapOf kind) = cache := by
  cases kind <;> rfl

/-! ## What is remembered, and what gets lost -/

/-- The handle that is remembered for a member. -/
def remembered (cache : AccessorCache σ) (now : Nat) (kind : AccessorKind) (key : AccessorKey) :
    Option (Shared (kind.Handle σ)) :=
  (cache.mapOf kind).get? cache.limits now key

/-- Keep the entries of a kind with certain keys. -/
def evict (cache : AccessorCache σ) (kind : AccessorKind) (keep : AccessorKey → Bool) :
    AccessorCache σ :=
  cache.withMap kind ((cache.mapOf kind).evict keep)

@[simp] theorem limits_evict (cache : AccessorCache σ) (kind : AccessorKind)
    (keep : AccessorKey → Bool) : (cache.evict kind keep).limits = cache.limits :=
  cache.limits_withMap kind _

theorem mem_evict {cache : AccessorCache σ} {kind other : AccessorKind} {keep : AccessorKey → Bool}
    {e : CacheEntry (other.Handle σ)} (he : e ∈ ((cache.evict kind keep).mapOf other).entries) :
    e ∈ (cache.mapOf other).entries := by
  by_cases hkind : other = kind
  · subst hkind
    rw [evict, mapOf_withMap_self] at he
    exact (List.mem_filter.1 he).1
  · rwa [evict, cache.mapOf_withMap_of_ne _ hkind] at he

/-! ## Lookups of a kind -/

/-- Look a handle of a kind up. -/
def find (cache : AccessorCache σ) (kind : AccessorKind) (metadata : Metadata σ)
    (now serial : Nat) (owner : OwnerType) (request : PropertyRequest) :
    Answer σ (kind.Handle σ) :=
  match kind with
  | .getter => cache.getGetter metadata now serial owner request
  | .setter => cache.getSetter metadata now serial owner request

/-- A lookup checks the request, and then uses the map of its kind and no other. -/
theorem find_eq (cache : AccessorCache σ) (kind : AccessorKind) (metadata : Metadata σ)
    (now serial : Nat) (owner : OwnerType) (request : PropertyRequest) :
    cache.find kind metadata now serial owner request
      = match checkRequest owner request with
        | .error err => ⟨.error err, cache, false⟩
        | .ok (name, access) =>
          let found := (cache.mapOf kind).lookup cache.limits now serial ⟨owner, name⟩
            (metadata.resolve kind owner name access)
          ⟨found.result, cache.withMap kind found.map, found.resolved⟩ := by
  cases kind <;> rfl

/-- A refused request changes nothing and asks no resolver. -/
theorem find_of_refused (cache : AccessorCache σ) (kind : AccessorKind) (metadata : Metadata σ)
    (now serial : Nat) (owner : OwnerType) {request : PropertyRequest} (h : request.Refused) :
    ∃ message, cache.find kind metadata now serial owner request
      = ⟨.error (.invalidArgument message), cache, false⟩ := by
  rw [find_eq, checkRequest]
  rcases request.resolve_eq with ⟨access, haccess, hresolve⟩ | ⟨tag, -, -, -, hresolve⟩
  · have hname : request.memberName = "" := by
      rcases h with hname | ⟨tag, htag, hne⟩
      · exact hname
      · exact absurd hne (PropertyRequest.tag?_of_access? haccess htag)
    rw [hresolve, hname]
    exact ⟨_, rfl⟩
  · rw [hresolve]
    exact ⟨_, rfl⟩

/-- Any other request is looked up under its owner type and its member name. -/
theorem find_of_accepted (cache : AccessorCache σ) (kind : AccessorKind) (metadata : Metadata σ)
    (now serial : Nat) (owner : OwnerType) {request : PropertyRequest} (h : ¬ request.Refused) :
    ∃ access, request.access? = some access
      ∧ cache.find kind metadata now serial owner request
        = let found := (cache.mapOf kind).lookup cache.limits now serial
            ⟨owner, request.memberName⟩ (metadata.resolve kind owner request.memberName access)
          ⟨found.result, cache.withMap kind found.map, found.resolved⟩ := by
  rw [find_eq, checkRequest]
  rcases request.resolve_eq with ⟨access, haccess, hresolve⟩ | ⟨tag, htag, hfield, hproperty, -⟩
  · have hname : request.memberName ≠ "" := fun hname => h (Or.inl hname)
    refine ⟨access, haccess, ?_⟩
    simp only [hresolve, if_neg hname]
  · exact absurd (Or.inr ⟨tag, htag, hfield, hproperty⟩) h

/-- A lookup gives the cache another map of its kind at most: the one of the request under some
    strategy. -/
theorem cache_find (cache : AccessorCache σ) (kind : AccessorKind) (metadata : Metadata σ)
    (now serial : Nat) (owner : OwnerType) (request : PropertyRequest) :
    (cache.find kind metadata now serial owner request).cache = cache
      ∨ ∃ access, (cache.find kind metadata now serial owner request).cache
        = cache.withMap kind ((cache.mapOf kind).lookup cache.limits now serial
          ⟨owner, request.memberName⟩ (metadata.resolve kind owner request.memberName access)).map := by
  by_cases hrefused : request.Refused
  · obtain ⟨message, hfind⟩ := cache.find_of_refused kind metadata now serial owner hrefused
    exact Or.inl (by rw [hfind])
  · obtain ⟨access, -, hfind⟩ := cache.find_of_accepted kind metadata now serial owner hrefused
    exact Or.inr ⟨access, by rw [hfind]⟩

@[simp] theorem limits_find (cache : AccessorCache σ) (kind : AccessorKind)
    (metadata : Metadata σ) (now serial : Nat) (owner : OwnerType) (request : PropertyRequest) :
    (cache.find kind metadata now serial owner request).cache.limits = cache.limits := by
  rcases cache.cache_find kind metadata now serial owner request with hfind | ⟨access, hfind⟩
  · rw [hfind]
  · rw [hfind, limits_withMap]

section Ends

variable {kind : AccessorKind} {now : Nat} {owner : OwnerType} {request : PropertyRequest}

/-- A hit gives the remembered handle. -/
theorem find_of_hit (cache : AccessorCache σ) (metadata : Metadata σ) (serial : Nat)
    (h : ¬ request.Refused) {handle : Shared (kind.Handle σ)}
    (hget : (cache.mapOf kind).get? cache.limits now ⟨owner, request.memberName⟩ = some handle) :
    (cache.find kind metadata now serial owner request).result = .ok handle
      ∧ (cache.find kind metadata now serial owner request).resolved = false := by
  obtain ⟨access, -, hfind⟩ := cache.find_of_accepted kind metadata now serial owner h
  rw [hfind]
  exact CacheMap.lookup_of_get?_eq_some hget serial _

/-- A miss gives what the metadata give, as a new instance. -/
theorem find_of_miss (cache : AccessorCache σ) (metadata : Metadata σ) (serial : Nat)
    (h : ¬ request.Refused)
    (hget : (cache.mapOf kind).get? cache.limits now ⟨owner, request.memberName⟩ = none) :
    ∃ access, request.access? = some access
      ∧ (cache.find kind metadata now serial owner request).resolved = true
      ∧ (cache.find kind metadata now serial owner request).result
        = (metadata.resolve kind owner request.memberName access).map (Shared.mk serial) := by
  obtain ⟨access, haccess, hfind⟩ := cache.find_of_accepted kind metadata now serial owner h
  rw [hfind]
  obtain ⟨hresult, hresolved⟩ := CacheMap.lookup_of_get?_eq_none hget serial
    (metadata.resolve kind owner request.memberName access)
  exact ⟨access, haccess, hresolved, hresult⟩

/-- A failed lookup changes nothing. -/
theorem find_of_failure (cache : AccessorCache σ) (metadata : Metadata σ) (serial : Nat)
    {err : Error} (herr : (cache.find kind metadata now serial owner request).result = .error err) :
    (cache.find kind metadata now serial owner request).cache = cache := by
  by_cases hrefused : request.Refused
  · obtain ⟨message, hfind⟩ := cache.find_of_refused kind metadata now serial owner hrefused
    rw [hfind]
  · obtain ⟨access, -, hfind⟩ := cache.find_of_accepted kind metadata now serial owner hrefused
    rw [hfind] at herr ⊢
    cases hget : (cache.mapOf kind).get? cache.limits now ⟨owner, request.memberName⟩ with
    | some handle =>
      have hhit := (CacheMap.lookup_of_get?_eq_some hget serial
        (metadata.resolve kind owner request.memberName access)).1
      have hboth : Except.ok handle = Except.error err := hhit.symm.trans herr
      cases hboth
    | none =>
      cases hresolve : metadata.resolve kind owner request.memberName access with
      | ok value => simp [CacheMap.lookup, hget, hresolve] at herr
      | error cause =>
        simp only [CacheMap.map_lookup_of_error hget]
        exact cache.withMap_mapOf kind

end Ends

end AccessorCache

end UnitBinding
