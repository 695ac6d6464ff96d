import UnitBinding.Proofs.Cache.Run

set_option autoImplicit false

/-! # What keeps a handle remembered

Any entry can get lost at any time, so nothing is certain about what a cache remembers. But a handle
changes only by getting lost: as long as a member has a handle, it has the one that it had. This rests
on there being one entry for each key (`AccessorCache.Unique`), which every use of a cache keeps up.

`AccessorCache.remembered` is the handle that a cache has for a member. A successful lookup leaves its own
handle (`remembered_find_self`), and no other lookup exchanges it (`Unique.remembered_find`). -/

namespace UnitBinding

/-! ## One map -/

namespace CacheMap

variable {H : Type} {limits : CacheLimits} {now later : Nat} {map : CacheMap H} {key : AccessorKey}

theorem Unique.evict (h : map.Unique) (keep : AccessorKey → Bool) : (map.evict keep).Unique :=
  h.sublist (List.filter_sublist.map _)

/-- An inserted handle is remembered, if there is room for one entry and it does not idle out at
    once. -/
theorem get?_insert_self (hroom : limits.capacity ≠ 0) (hidle : limits.idle ≠ some 0)
    (handle : Shared H) : (map.insert limits now key handle).get? limits now key = some handle := by
  have hlive : isLive limits now ⟨key, handle, now⟩ = true := by
    cases hlimit : limits.idle with
    | none => simp only [isLive, hlimit]
    | some idle =>
      have hpos : idle ≠ 0 := fun hzero => hidle (hzero ▸ hlimit)
      simp only [isLive, hlimit, decide_eq_true_eq]
      omega
  -- the cut to the capacity keeps the first entry
  obtain ⟨room, hroom⟩ := Nat.exists_eq_succ_of_ne_zero hroom
  rw [get?, live, insert, hroom, List.take_succ_cons, List.filter_cons_of_pos hlive,
    List.find?_cons_of_pos (by simp), Option.map_some]

/-- A successful lookup leaves its handle. -/
theorem get?_lookup_self (hroom : limits.capacity ≠ 0) (hidle : limits.idle ≠ some 0)
    {serial : Nat} {resolve : Except Error H} {handle : Shared H}
    (hok : (map.lookup limits now serial key resolve).result = .ok handle) :
    (map.lookup limits now serial key resolve).map.get? limits now key = some handle := by
  cases hget : map.get? limits now key with
  | some known =>
    simp only [lookup, hget] at hok ⊢
    obtain rfl := Except.ok.inj hok
    exact get?_insert_self hroom hidle known
  | none =>
    cases resolve with
    | ok value =>
      simp only [lookup, hget] at hok ⊢
      obtain rfl := Except.ok.inj hok
      exact get?_insert_self hroom hidle ⟨serial, value⟩
    | error err =>
      simp only [lookup, hget] at hok
      cases hok

/-- A handle that is remembered at two times is the same if nothing was stored in between. -/
theorem Unique.get?_of_subset (h : map.Unique) {other : CacheMap H}
    (hsub : ∀ e ∈ other.entries, e ∈ map.entries) {before after : Shared H}
    (hbefore : map.get? limits now key = some before)
    (hafter : other.get? limits later key = some after) : after = before := by
  obtain ⟨d, hd, hdkey, rfl⟩ := exists_entry_of_get? hbefore
  obtain ⟨e, he, hekey, rfl⟩ := exists_entry_of_get? hafter
  rw [h.eq_of_key (hsub e (mem_of_mem_live he)) (mem_of_mem_live hd) (hekey.trans hdkey.symm)]

/-- An insertion exchanges no handle that is remembered. -/
theorem Unique.get?_insert (h : map.Unique) {other : AccessorKey} {handle before after : Shared H}
    (hbefore : map.get? limits now key = some before) (hsame : other = key → handle = before)
    (hafter : (map.insert limits now other handle).get? limits now key = some after) :
    after = before := by
  obtain ⟨d, hd, hdkey, rfl⟩ := exists_entry_of_get? hbefore
  obtain ⟨e, he, hekey, rfl⟩ := exists_entry_of_get? hafter
  rcases mem_insert (mem_of_mem_live he) with rfl | hold
  · exact hsame hekey
  · rw [h.eq_of_key (mem_of_mem_live hold) (mem_of_mem_live hd) (hekey.trans hdkey.symm)]

/-- A lookup exchanges no handle that is remembered: one that stores a new handle had none before. -/
theorem Unique.get?_lookup (h : map.Unique) {other : AccessorKey} {serial : Nat}
    {resolve : Except Error H} {before after : Shared H}
    (hbefore : map.get? limits now key = some before)
    (hafter : (map.lookup limits now serial other resolve).map.get? limits now key = some after) :
    after = before := by
  cases hget : map.get? limits now other with
  | some handle =>
    simp only [CacheMap.lookup, hget] at hafter
    refine h.get?_insert hbefore (fun hkey => ?_) hafter
    rw [hkey, hbefore] at hget
    exact (Option.some.inj hget).symm
  | none =>
    cases resolve with
    | ok value =>
      simp only [CacheMap.lookup, hget] at hafter
      refine h.get?_insert hbefore (fun hkey => ?_) hafter
      rw [hkey, hbefore] at hget
      cases hget
    | error err =>
      rw [map_lookup_of_error hget, hbefore] at hafter
      exact (Option.some.inj hafter).symm

end CacheMap

/-! ## Both maps -/

namespace AccessorCache

variable {σ : Type} {cache : AccessorCache σ} {metadata : Metadata σ} {now later serial : Nat}
  {owner : OwnerType} {request : PropertyRequest}

/-- No key has two entries in one map. -/
def Unique (cache : AccessorCache σ) : Prop := ∀ kind, (cache.mapOf kind).Unique

/-- Every entry was resolved from some metadata with a property. -/
def ResolvedFrom (cache : AccessorCache σ) (seen : Metadata σ → Prop) : Prop :=
  ∀ kind, ∀ e ∈ (cache.mapOf kind).entries, ∃ metadata, seen metadata
    ∧ metadata.resolve kind e.key.owner e.key.name (kind.accessOf e.handle.value)
      = .ok e.handle.value

theorem unique_ofLimits (limits : CacheLimits) : (ofLimits (σ := σ) limits).Unique := by
  intro kind
  cases kind <;> exact CacheMap.unique_empty

theorem resolvedFrom_ofLimits (limits : CacheLimits) (seen : Metadata σ → Prop) :
    (ofLimits limits).ResolvedFrom seen := by
  intro kind e he
  cases kind <;> exact absurd he List.not_mem_nil

theorem ResolvedFrom.mono {seen more : Metadata σ → Prop} (h : cache.ResolvedFrom seen)
    (hmore : ∀ metadata, seen metadata → more metadata) : cache.ResolvedFrom more := by
  intro kind e he
  obtain ⟨metadata, hseen, hresolve⟩ := h kind e he
  exact ⟨metadata, hmore metadata hseen, hresolve⟩

/-! ## Entries that get lost -/

theorem Unique.evict (h : cache.Unique) (kind : AccessorKind) (keep : AccessorKey → Bool) :
    (cache.evict kind keep).Unique := by
  intro other
  by_cases hkind : other = kind
  · subst hkind
    rw [AccessorCache.evict, mapOf_withMap_self]
    exact (h other).evict keep
  · rw [AccessorCache.evict, cache.mapOf_withMap_of_ne _ hkind]
    exact h other

theorem ResolvedFrom.evict {seen : Metadata σ → Prop} (h : cache.ResolvedFrom seen)
    (kind : AccessorKind) (keep : AccessorKey → Bool) :
    (cache.evict kind keep).ResolvedFrom seen :=
  fun other e he => h other e (mem_evict he)

/-- What is still remembered after a loss is what was remembered before. -/
theorem Unique.remembered_evict (h : cache.Unique) (kind : AccessorKind)
    (keep : AccessorKey → Bool) {other : AccessorKind} {key : AccessorKey}
    {before after : Shared (other.Handle σ)} (hbefore : cache.remembered now other key = some before)
    (hafter : (cache.evict kind keep).remembered later other key = some after) :
    after = before := by
  rw [remembered, limits_evict] at hafter
  exact (h other).get?_of_subset (fun e he => mem_evict he) hbefore hafter

/-- What is still remembered after some time is what was remembered before. -/
theorem Unique.remembered_later (h : cache.Unique) {kind : AccessorKind} {key : AccessorKey}
    {before after : Shared (kind.Handle σ)} (hbefore : cache.remembered now kind key = some before)
    (hafter : cache.remembered later kind key = some after) : after = before :=
  (h kind).get?_of_subset (fun _ he => he) hbefore hafter

/-! ## Lookups -/

theorem Unique.find (h : cache.Unique) (kind : AccessorKind) :
    (cache.find kind metadata now serial owner request).cache.Unique := by
  rcases cache.cache_find kind metadata now serial owner request with hfind | ⟨access, hfind⟩
  · rwa [hfind]
  · rw [hfind]
    intro other
    by_cases hkind : other = kind
    · subst hkind
      rw [mapOf_withMap_self]
      exact (h other).lookup serial _ _
    · rw [cache.mapOf_withMap_of_ne _ hkind]
      exact h other

/-- A lookup stores what was resolved before, or what it resolves itself. -/
theorem ResolvedFrom.find {seen : Metadata σ → Prop} (h : cache.ResolvedFrom seen)
    (hseen : seen metadata) (kind : AccessorKind) :
    (cache.find kind metadata now serial owner request).cache.ResolvedFrom seen := by
  rcases cache.cache_find kind metadata now serial owner request with hfind | ⟨access, hfind⟩
  · rwa [hfind]
  · rw [hfind]
    intro other e he
    by_cases hkind : other = kind
    · subst hkind
      rw [mapOf_withMap_self] at he
      rcases CacheMap.mem_lookup he with ⟨d, hd, hkey, hhandle⟩ | ⟨hkey, hresolve⟩
      · have hold := h other d hd
        rwa [hkey, hhandle] at hold
      · obtain ⟨-, -, hown⟩ := Metadata.resolve_ok hresolve
        exact ⟨metadata, hseen, by rw [hkey, hown, hresolve]⟩
    · rw [cache.mapOf_withMap_of_ne _ hkind] at he
      exact h other e he

/-- What is still remembered after a lookup is what was remembered before. -/
theorem Unique.remembered_find (h : cache.Unique) (kind : AccessorKind) {other : AccessorKind}
    {key : AccessorKey} {before after : Shared (other.Handle σ)}
    (hbefore : cache.remembered now other key = some before)
    (hafter : (cache.find kind metadata now serial owner request).cache.remembered now other key
      = some after) : after = before := by
  rw [remembered, limits_find] at hafter
  rcases cache.cache_find kind metadata now serial owner request with hfind | ⟨access, hfind⟩
  · rw [hfind] at hafter
    exact Option.some.inj (hafter.symm.trans hbefore)
  · rw [hfind] at hafter
    by_cases hkind : other = kind
    · subst hkind
      rw [mapOf_withMap_self] at hafter
      exact (h other).get?_lookup hbefore hafter
    · rw [cache.mapOf_withMap_of_ne _ hkind] at hafter
      exact Option.some.inj (hafter.symm.trans hbefore)

/-- A successful lookup was not refused. -/
theorem not_refused_of_find {kind : AccessorKind} {handle : Shared (kind.Handle σ)}
    (hok : (cache.find kind metadata now serial owner request).result = .ok handle) :
    ¬ request.Refused := by
  intro hrefused
  obtain ⟨message, hfind⟩ := cache.find_of_refused kind metadata now serial owner hrefused
  rw [hfind] at hok
  cases hok

/-- The handle of a successful lookup is remembered. -/
theorem remembered_find_self (hroom : cache.limits.capacity ≠ 0)
    (hidle : cache.limits.idle ≠ some 0) {kind : AccessorKind} {handle : Shared (kind.Handle σ)}
    (hok : (cache.find kind metadata now serial owner request).result = .ok handle) :
    (cache.find kind metadata now serial owner request).cache.remembered now kind
      ⟨owner, request.memberName⟩ = some handle := by
  obtain ⟨access, -, hfind⟩ :=
    cache.find_of_accepted kind metadata now serial owner (not_refused_of_find hok)
  rw [remembered, limits_find]
  rw [hfind] at hok ⊢
  simp only [mapOf_withMap_self]
  exact CacheMap.get?_lookup_self hroom hidle hok

/-- Whatever a lookup gives was resolved from what was seen. -/
theorem ResolvedFrom.of_find {seen : Metadata σ → Prop} (h : cache.ResolvedFrom seen)
    (hseen : seen metadata) {kind : AccessorKind} {handle : Shared (kind.Handle σ)}
    (hok : (cache.find kind metadata now serial owner request).result = .ok handle) :
    ∃ source, seen source ∧ source.resolve kind owner request.memberName
      (kind.accessOf handle.value) = .ok handle.value := by
  have haccepted := not_refused_of_find hok
  cases hget : (cache.mapOf kind).get? cache.limits now ⟨owner, request.memberName⟩ with
  | some known =>
    have hhit := (cache.find_of_hit metadata serial haccepted hget).1
    obtain rfl : known = handle := Except.ok.inj (hhit.symm.trans hok)
    obtain ⟨e, he, hkey, rfl⟩ := CacheMap.exists_entry_of_get? hget
    have hentry := h kind e (CacheMap.mem_of_mem_live he)
    rwa [hkey] at hentry
  | none =>
    obtain ⟨access, -, -, hmiss⟩ := cache.find_of_miss metadata serial haccepted hget
    rw [hok] at hmiss
    cases hresolve : metadata.resolve kind owner request.memberName access with
    | error err =>
      rw [hresolve] at hmiss
      cases hmiss
    | ok value =>
      rw [hresolve] at hmiss
      obtain rfl := Except.ok.inj hmiss
      obtain ⟨-, -, hown⟩ := Metadata.resolve_ok hresolve
      exact ⟨metadata, hseen, by rw [hown, hresolve]⟩

end AccessorCache

end UnitBinding
