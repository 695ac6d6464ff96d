import UnitBinding.Metadata
import UnitBinding.Shared

set_option autoImplicit false

/-! # The accessor cache

Resolving an accessor looks through metadata; the cache remembers the handle that a resolution gave
for an owner type and a member name. There is one map for getters and one for setters, each with its
own bound on the number of entries. Failed resolutions are never remembered. An entry that no lookup
hits for the idle time is dropped, and a full map drops the entry that was hit longest ago: the
cache is never the only source of a handle.

The access strategy is no part of the key. A lookup that hits gets the handle of the first successful
resolution, whatever strategy it asks for. -/

namespace UnitBinding

/-! ## One map -/

/-- What a handle is remembered under. -/
structure AccessorKey where
  owner : OwnerType
  name : String
  deriving DecidableEq, Inhabited

/-- A remembered handle and the time of the last hit. -/
structure CacheEntry (H : Type) where
  key : AccessorKey
  handle : Shared H
  touched : Nat

/-- Remembered handles of one kind, the latest hit first. -/
structure CacheMap (H : Type) where
  entries : List (CacheEntry H) := []

/-- The bounds of a cache: entries per map, and the idle time in milliseconds, if there is one. -/
structure CacheLimits where
  capacity : Nat
  idle : Option Nat
  deriving DecidableEq, Inhabited

namespace CacheMap

variable {H : Type}

/-- Whether an entry has not idled out. -/
def isLive (limits : CacheLimits) (now : Nat) (e : CacheEntry H) : Bool :=
  match limits.idle with
  | none => true
  | some idle => now < e.touched + idle

/-- The entries that have not idled out. -/
def live (limits : CacheLimits) (now : Nat) (map : CacheMap H) : List (CacheEntry H) :=
  map.entries.filter (isLive limits now)

/-- The number of entries. -/
def size (limits : CacheLimits) (now : Nat) (map : CacheMap H) : Nat :=
  (map.live limits now).length

/-- The remembered handle of a key. -/
def get? (limits : CacheLimits) (now : Nat) (map : CacheMap H) (key : AccessorKey) :
    Option (Shared H) :=
  ((map.live limits now).find? fun e => e.key = key).map (·.handle)

/-- Put an entry first, within the bound on entries. -/
def insert (limits : CacheLimits) (now : Nat) (map : CacheMap H) (key : AccessorKey)
    (handle : Shared H) : CacheMap H :=
  ⟨(⟨key, handle, now⟩ :: (map.live limits now).filter fun e => e.key ≠ key).take
    limits.capacity⟩

/-- How a lookup ended. -/
structure Lookup (H : Type) where
  /-- The handle, or why there is none. -/
  result : Except Error (Shared H)
  /-- The map afterwards. -/
  map : CacheMap H
  /-- Whether the resolver was asked. -/
  resolved : Bool

/-- Look a key up. A hit counts as a use; on a miss the resolver is asked, and a success is
    remembered as the instance with the given serial. -/
def lookup (limits : CacheLimits) (now serial : Nat) (map : CacheMap H) (key : AccessorKey)
    (resolve : Except Error H) : Lookup H :=
  match map.get? limits now key with
  | some handle => ⟨.ok handle, map.insert limits now key handle, false⟩
  | none =>
    match resolve with
    | .ok h => ⟨.ok ⟨serial, h⟩, map.insert limits now key ⟨serial, h⟩, true⟩
    | .error err => ⟨.error err, map, true⟩

/-- A hit gives the remembered handle, whatever a resolution would give. -/
theorem lookup_of_get?_eq_some {limits : CacheLimits} {now : Nat} {map : CacheMap H}
    {key : AccessorKey} {handle : Shared H} (h : map.get? limits now key = some handle)
    (serial : Nat) (resolve : Except Error H) :
    (map.lookup limits now serial key resolve).result = .ok handle
      ∧ (map.lookup limits now serial key resolve).resolved = false := by
  simp [lookup, h]

/-- A miss gives what the resolution gives, as a new instance. -/
theorem lookup_of_get?_eq_none {limits : CacheLimits} {now : Nat} {map : CacheMap H}
    {key : AccessorKey} (h : map.get? limits now key = none) (serial : Nat)
    (resolve : Except Error H) :
    (map.lookup limits now serial key resolve).result = resolve.map (Shared.mk serial)
      ∧ (map.lookup limits now serial key resolve).resolved = true := by
  cases resolve <;> simp [lookup, h, Except.map]

/-- A failed resolution leaves the map alone. -/
theorem map_lookup_of_error {limits : CacheLimits} {now : Nat} {map : CacheMap H}
    {key : AccessorKey} (h : map.get? limits now key = none) (serial : Nat) (err : Error) :
    (map.lookup limits now serial key (.error err)).map = map := by
  simp [lookup, h]

end CacheMap

/-! ## Both maps -/

/-- The two kinds of accessor handles. -/
inductive Handle (σ : Type) where
  | getter (g : Getter σ)
  | setter (s : Setter σ)

/-- Remembered getters and setters. -/
structure AccessorCache (σ : Type) where
  limits : CacheLimits
  getters : CacheMap (Getter σ) := {}
  setters : CacheMap (Setter σ) := {}

/-- Entries per map without configuration. -/
def defaultCapacity : Nat := 10000

/-- Idle time in seconds without configuration. -/
def defaultIdleSeconds : Nat := 3600

/-- How a lookup names the property and the strategy. -/
inductive PropertyRequest where
  /-- A member name and a strategy. -/
  | named (name : String) (access : AccessType)
  /-- A mapped property; its member name is what counts. -/
  | mapped (property : PropertyData)
  /-- A member name and the tag of a strategy. -/
  | tagged (name tag : String)
  deriving DecidableEq

namespace PropertyRequest

/-- The error for a tag that names no strategy. -/
def unknownTag (tag : String) : Error :=
  .invalidArgument ("Unknown access type '" ++ tag ++ "'. Use 'field' or 'property'")

/-- The strategy with a tag. -/
def parseTag (tag : String) : Except Error AccessType :=
  match AccessType.ofTag? tag with
  | some access => .ok access
  | none => .error (unknownTag tag)

/-- The member name and the strategy that are asked for. The tag is looked at first. -/
def resolve : PropertyRequest → Except Error (String × AccessType)
  | .named name access => .ok (name, access)
  | .mapped property => .ok (property.beanName, property.access)
  | .tagged name tag => (parseTag tag).map fun access => (name, access)

end PropertyRequest

namespace AccessorCache

variable {σ : Type}

/-- A cache without entries. -/
def ofLimits (limits : CacheLimits) : AccessorCache σ := { limits }

/-- A cache with the default bounds. -/
def default : AccessorCache σ :=
  ofLimits ⟨defaultCapacity, some (defaultIdleSeconds * 1000)⟩

/-- The error for an empty member name. -/
def emptyName (owner : OwnerType) : Error :=
  .invalidArgument ("Property name must not be empty (owner: " ++ owner.name ++ ")")

/-- The member name and the strategy of a request with a member name. -/
def checkRequest (owner : OwnerType) (request : PropertyRequest) :
    Except Error (String × AccessType) :=
  match request.resolve with
  | .error err => .error err
  | .ok (name, access) => if name = "" then .error (emptyName owner) else .ok (name, access)

/-- How a lookup in the cache ended. -/
structure Answer (σ H : Type) where
  result : Except Error (Shared H)
  cache : AccessorCache σ
  /-- Whether the resolver was asked. -/
  resolved : Bool

/-- Look a getter up. -/
def getGetter (cache : AccessorCache σ) (metadata : Metadata σ) (now serial : Nat)
    (owner : OwnerType) (request : PropertyRequest) : Answer σ (Getter σ) :=
  match checkRequest owner request with
  | .error err => ⟨.error err, cache, false⟩
  | .ok (name, access) =>
    let found := cache.getters.lookup cache.limits now serial ⟨owner, name⟩
      (metadata.getter owner name access)
    ⟨found.result, { cache with getters := found.map }, found.resolved⟩

/-- Look a setter up. -/
def getSetter (cache : AccessorCache σ) (metadata : Metadata σ) (now serial : Nat)
    (owner : OwnerType) (request : PropertyRequest) : Answer σ (Setter σ) :=
  match checkRequest owner request with
  | .error err => ⟨.error err, cache, false⟩
  | .ok (name, access) =>
    let found := cache.setters.lookup cache.limits now serial ⟨owner, name⟩
      (metadata.setter owner name access)
    ⟨found.result, { cache with setters := found.map }, found.resolved⟩

/-- The number of remembered getters and setters. -/
def stats (cache : AccessorCache σ) (now : Nat) : Nat × Nat :=
  (cache.getters.size cache.limits now, cache.setters.size cache.limits now)

/-- The form that diagnostics show. -/
def debug (cache : AccessorCache σ) (now : Nat) : String :=
  let (getters, setters) := cache.stats now
  "AccessorCache \x7b getters: " ++ toString getters ++ ", setters: " ++ toString setters
    ++ ", .. \x7d"

end AccessorCache

end UnitBinding
