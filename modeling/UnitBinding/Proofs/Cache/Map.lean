import Mathlib.Data.List.Dedup
import Mathlib.Data.List.Perm.Subperm
import UnitBinding.AccessorCache

set_option autoImplicit false

/-! # What a map of handles remembers

A map of the cache keeps its entries in the order of their last hits, drops those that have idled
out and cuts itself to its capacity. None of that matters to callers as long as nothing gets lost:
then a map is known by the answers that were remembered in it. `CacheMap.Remembers` relates a map
to such a list of answers, and the lemmas say what a lookup does to the relation: a hit and a
successful resolution add one answer, a failed one adds none. -/

namespace UnitBinding

/-- The number of keys in a list of answers. -/
def distinctKeys {H : Type} (answers : List (AccessorKey × H)) : Nat :=
  (answers.map Prod.fst).dedup.length

/-- Fewer keys are answered by a part of the answers. -/
theorem distinctKeys_le_append {H : Type} (first second : List (AccessorKey × H)) :
    distinctKeys first ≤ distinctKeys (first ++ second) := by
  have hsub : (first.map Prod.fst).dedup ⊆ ((first ++ second).map Prod.fst).dedup := by
    intro key hkey
    rw [List.mem_dedup] at hkey ⊢
    rw [List.map_append]
    exact List.mem_append_left _ hkey
  exact (List.subperm_of_subset (List.nodup_dedup _) hsub).length_le

namespace CacheMap

variable {H : Type} {limits : CacheLimits} {now : Nat} {map : CacheMap H}

/-! ## Entries that stay -/

/-- No entry has idled out. -/
def allLive (limits : CacheLimits) (now : Nat) (map : CacheMap H) : Bool :=
  map.entries.all (isLive limits now)

theorem live_of_allLive (h : map.allLive limits now = true) :
    map.live limits now = map.entries := by
  rw [live, List.filter_eq_self]
  intro e he
  exact List.all_eq_true.1 h e he

theorem mem_of_mem_live {e : CacheEntry H} (h : e ∈ map.live limits now) : e ∈ map.entries :=
  (List.mem_filter.1 h).1

/-- A remembered handle stands in a live entry of its key. -/
theorem exists_entry_of_get? {key : AccessorKey} {handle : Shared H}
    (h : map.get? limits now key = some handle) :
    ∃ e ∈ map.live limits now, e.key = key ∧ e.handle = handle := by
  obtain ⟨e, he, rfl⟩ := Option.map_eq_some_iff.1 h
  have hkey : e.key = key := by simpa using List.find?_some he
  exact ⟨e, List.mem_of_find?_eq_some he, hkey, rfl⟩

/-- An insertion keeps no entry beside the new one and those that were live. -/
theorem mem_insert {key : AccessorKey} {handle : Shared H} {e : CacheEntry H}
    (h : e ∈ (map.insert limits now key handle).entries) :
    e = ⟨key, handle, now⟩ ∨ e ∈ map.live limits now := by
  rcases List.mem_cons.1 (List.mem_of_mem_take h) with rfl | hrest
  · exact Or.inl rfl
  · exact Or.inr (List.mem_filter.1 hrest).1

/-- A lookup stores no other handle than one that was stored for the key already, or the one that it
    resolved. -/
theorem mem_lookup {serial : Nat} {key : AccessorKey} {resolve : Except Error H} {e : CacheEntry H}
    (h : e ∈ (map.lookup limits now serial key resolve).map.entries) :
    (∃ d ∈ map.entries, d.key = e.key ∧ d.handle = e.handle)
      ∨ e.key = key ∧ resolve = .ok e.handle.value := by
  cases hget : map.get? limits now key with
  | some handle =>
    simp only [lookup, hget] at h
    rcases mem_insert h with rfl | hold
    · obtain ⟨d, hd, hkey, hhandle⟩ := exists_entry_of_get? hget
      exact Or.inl ⟨d, mem_of_mem_live hd, hkey, hhandle⟩
    · exact Or.inl ⟨e, mem_of_mem_live hold, rfl, rfl⟩
  | none =>
    cases resolve with
    | ok value =>
      simp only [lookup, hget] at h
      rcases mem_insert h with rfl | hold
      · exact Or.inr ⟨rfl, rfl⟩
      · exact Or.inl ⟨e, mem_of_mem_live hold, rfl, rfl⟩
    | error err =>
      rw [map_lookup_of_error hget] at h
      exact Or.inl ⟨e, h, rfl, rfl⟩

/-! ## One entry for each key -/

/-- No key has two entries. -/
def Unique (map : CacheMap H) : Prop := (map.entries.map (·.key)).Nodup

theorem unique_empty : Unique (H := H) {} := List.nodup_nil

theorem Unique.eq_of_key {d e : CacheEntry H} (h : map.Unique) (hd : d ∈ map.entries)
    (he : e ∈ map.entries) (hkey : d.key = e.key) : d = e :=
  List.inj_on_of_nodup_map h hd he hkey

/-- Putting a key first. -/
theorem Unique.cons (h : map.Unique) (key : AccessorKey) (handle : Shared H) (now : Nat) :
    Unique ⟨⟨key, handle, now⟩ :: map.entries.filter fun e => e.key ≠ key⟩ := by
  rw [Unique, List.map_cons, List.nodup_cons]
  refine ⟨?_, h.sublist (List.filter_sublist.map _)⟩
  intro hmem
  obtain ⟨e, he, hkey⟩ := List.mem_map.1 hmem
  simpa [hkey] using (List.mem_filter.1 he).2

theorem Unique.insert (h : map.Unique) (key : AccessorKey) (handle : Shared H) :
    (map.insert limits now key handle).Unique := by
  have hlive : Unique ⟨map.live limits now⟩ := h.sublist (List.filter_sublist.map _)
  exact (hlive.cons key handle now).sublist ((List.take_sublist _ _).map _)

theorem Unique.lookup (h : map.Unique) (serial : Nat) (key : AccessorKey)
    (resolve : Except Error H) : (map.lookup limits now serial key resolve).map.Unique := by
  cases hget : map.get? limits now key with
  | some handle =>
    simp only [CacheMap.lookup, hget]
    exact h.insert key handle
  | none =>
    cases resolve with
    | ok value =>
      simp only [CacheMap.lookup, hget]
      exact h.insert key ⟨serial, value⟩
    | error err =>
      rw [map_lookup_of_error hget]
      exact h

/-! ## Remembered answers -/

/-- A map remembers a list of answers: it has one entry for each key in the list, with the answer
    for that key. -/
structure Remembers (map : CacheMap H) (answers : List (AccessorKey × Shared H)) : Prop where
  nodup : (map.entries.map (·.key)).Nodup
  mem_iff : ∀ (key : AccessorKey) (handle : Shared H),
    (∃ e ∈ map.entries, e.key = key ∧ e.handle = handle) ↔ (key, handle) ∈ answers

namespace Remembers

variable {answers : List (AccessorKey × Shared H)}

/-- An empty map remembers nothing. -/
theorem nil : Remembers (H := H) {} [] :=
  ⟨List.nodup_nil, by simp⟩

theorem unique (h : map.Remembers answers) : map.Unique := h.nodup

/-- The handle under a key is the answer for it. -/
theorem get?_eq_some_iff (h : map.Remembers answers) (hlive : map.allLive limits now = true)
    (key : AccessorKey) (handle : Shared H) :
    map.get? limits now key = some handle ↔ (key, handle) ∈ answers := by
  rw [← h.mem_iff]
  constructor
  · intro hget
    obtain ⟨e, he, hkey, hhandle⟩ := exists_entry_of_get? hget
    exact ⟨e, mem_of_mem_live he, hkey, hhandle⟩
  · rintro ⟨e, he, rfl, rfl⟩
    rw [get?, live_of_allLive hlive]
    cases hfind : map.entries.find? (fun d => d.key = e.key) with
    | none =>
      have hne : ¬ e.key = e.key := by
        simpa only [decide_eq_true_eq] using List.find?_eq_none.1 hfind e he
      exact absurd rfl hne
    | some d =>
      have hkey : d.key = e.key := by simpa using List.find?_some hfind
      rw [h.unique.eq_of_key (List.mem_of_find?_eq_some hfind) he hkey, Option.map_some]

/-- No handle stands under a key without an answer. -/
theorem get?_eq_none_iff (h : map.Remembers answers) (hlive : map.allLive limits now = true)
    (key : AccessorKey) :
    map.get? limits now key = none ↔ ∀ handle, (key, handle) ∉ answers := by
  rw [Option.eq_none_iff_forall_ne_some]
  exact forall_congr' fun handle => not_congr (h.get?_eq_some_iff hlive key handle)

/-- A map has as many entries as there are keys with an answer. -/
theorem length_entries (h : map.Remembers answers) :
    map.entries.length = distinctKeys answers := by
  have hperm : (map.entries.map (·.key)).Perm (answers.map Prod.fst).dedup := by
    rw [List.perm_ext_iff_of_nodup h.nodup (List.nodup_dedup _)]
    intro key
    rw [List.mem_dedup, List.mem_map, List.mem_map]
    constructor
    · rintro ⟨e, he, rfl⟩
      exact ⟨(e.key, e.handle), (h.mem_iff e.key e.handle).1 ⟨e, he, rfl, rfl⟩, rfl⟩
    · rintro ⟨⟨key, handle⟩, hmem, rfl⟩
      obtain ⟨e, he, hkey, -⟩ := (h.mem_iff key handle).2 hmem
      exact ⟨e, he, hkey⟩
  rw [distinctKeys, ← hperm.length_eq, List.length_map]

/-- The number that a map reports. -/
theorem size_eq (h : map.Remembers answers) (hlive : map.allLive limits now = true) :
    map.size limits now = distinctKeys answers := by
  rw [size, live_of_allLive hlive, h.length_entries]

/-- Putting a key first, with an answer that is not at odds with the earlier ones. -/
theorem cons (h : map.Remembers answers) {key : AccessorKey} {handle : Shared H} (now : Nat)
    (hsame : ∀ other, (key, other) ∈ answers → other = handle) :
    Remembers ⟨⟨key, handle, now⟩ :: map.entries.filter fun e => e.key ≠ key⟩
      (answers ++ [(key, handle)]) where
  nodup := h.unique.cons key handle now
  mem_iff := by
    intro k other
    rw [List.mem_append, List.mem_singleton, ← h.mem_iff]
    constructor
    · rintro ⟨e, he, rfl, rfl⟩
      rcases List.mem_cons.1 he with rfl | hrest
      · exact Or.inr rfl
      · exact Or.inl ⟨e, (List.mem_filter.1 hrest).1, rfl, rfl⟩
    · rintro (⟨e, he, rfl, rfl⟩ | heq)
      · by_cases hkey : e.key = key
        · -- the entry is gone, but the new one has the same handle
          refine ⟨_, List.mem_cons_self, hkey.symm, ?_⟩
          exact (hsame e.handle ((h.mem_iff _ _).1 ⟨e, he, hkey, rfl⟩)).symm
        · exact ⟨e, List.mem_cons_of_mem _ (List.mem_filter.2 ⟨he, by simpa using hkey⟩), rfl, rfl⟩
      · rw [Prod.mk.injEq] at heq
        exact ⟨_, List.mem_cons_self, heq.1.symm, heq.2.symm⟩

/-- An insertion within the capacity loses nothing. -/
theorem insert (h : map.Remembers answers) (hlive : map.allLive limits now = true)
    {key : AccessorKey} {handle : Shared H}
    (hsame : ∀ other, (key, other) ∈ answers → other = handle)
    (hroom : distinctKeys (answers ++ [(key, handle)]) ≤ limits.capacity) :
    (map.insert limits now key handle).Remembers (answers ++ [(key, handle)]) := by
  have hcons := h.cons now hsame
  have hlength := hcons.length_entries
  -- the cut to the capacity cuts nothing off
  rw [CacheMap.insert, live_of_allLive hlive, List.take_of_length_le]
  · exact hcons
  · rw [hlength]
    exact hroom

end Remembers

/-! ## Lookups -/

/-- The answer that a lookup adds, if it succeeds. -/
def answered (key : AccessorKey) : Except Error (Shared H) → List (AccessorKey × Shared H)
  | .ok handle => [(key, handle)]
  | .error _ => []

/-- What a lookup leaves behind is remembered: what was before, and its own answer. -/
theorem Remembers.lookup {answers : List (AccessorKey × Shared H)} (h : map.Remembers answers)
    (hlive : map.allLive limits now = true) (serial : Nat) (key : AccessorKey)
    (resolve : Except Error H)
    (hroom : distinctKeys
      (answers ++ answered key (map.lookup limits now serial key resolve).result)
      ≤ limits.capacity) :
    (map.lookup limits now serial key resolve).map.Remembers
      (answers ++ answered key (map.lookup limits now serial key resolve).result) := by
  cases hget : map.get? limits now key with
  | some handle =>
    -- a hit stores the remembered handle again
    simp only [CacheMap.lookup, hget, answered] at hroom ⊢
    refine h.insert hlive (fun other hother => ?_) hroom
    rw [← h.get?_eq_some_iff hlive, hget] at hother
    exact (Option.some.inj hother).symm
  | none =>
    cases resolve with
    | ok value =>
      simp only [CacheMap.lookup, hget, answered] at hroom ⊢
      refine h.insert hlive (fun other hother => ?_) hroom
      exact absurd hother ((h.get?_eq_none_iff hlive key).1 hget other)
    | error err =>
      simpa only [CacheMap.lookup, hget, answered, List.append_nil] using h

end CacheMap

end UnitBinding
