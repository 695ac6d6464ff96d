import UnitBinding.Proofs.Cache.Keeping
import UnitBinding.Proofs.Config.Loading
import UnitBinding.Proofs.Metadata.Run
import UnitBinding.Proofs.Startup

set_option autoImplicit false

/-! # Runs of a program with a process-wide cache

A program makes registries of metadata and caches over them, starts contexts, installs caches as the
process-wide one, and looks handles up. Everything that it makes has a number: the caches and the
registries are counted in the order of their making, and a started context has the last of each.

There are two ways to install a cache, by itself and in the course of a start, and each can fail. What they
do to the process-wide cache is said once, by `global_step`: the first cache that an event installs becomes
it, and nothing changes it afterwards. `steady_of_installs_eq_none` says what calls that do not install
leave alone, and `cache_step` all that any event can do to a cache. -/

namespace UnitBinding

variable {σ : Type}

/-! ## Programs -/

/-- A cache of a program, with the registry that it resolves from. Without one it has a resolver of its
    own. -/
structure CacheInstance (σ : Type) where
  cache : AccessorCache σ
  registry : Option Nat

/-- The state of a program. -/
structure Program (σ : Type) where
  process : ProcessCache := {}
  caches : List (CacheInstance σ) := []
  registries : List (Metadata σ) := []
  now : Nat := 0
  /-- The serial of the next handle. -/
  next : Nat := 0

/-- By which reference a cache is used. -/
inductive CacheRoute where
  | processWide
  | held (serial : Nat)
  deriving DecidableEq

/-- What a program can do. -/
inductive ProgramEvent (σ : Type) where
  /-- A registry without types is made. -/
  | newRegistry
  /-- Types are registered in a registry or taken away. -/
  | declare (registry : Nat) (event : MetadataEvent σ)
  /-- A cache is built over a registry, or over a resolver of its own. -/
  | newCache (limits : CacheLimits) (registry : Option Nat)
  /-- A cache over a resolver of its own is used, which leaves it in some state. -/
  | useOwn (serial : Nat) (left : AccessorCache σ)
  /-- A cache is to become the process-wide one. -/
  | installGlobal (serial : Nat)
  /-- A context is to be started. -/
  | initContext (config : AppConfig) (platform : TransactionPlatform)
  /-- A handle is looked up. -/
  | lookup (route : CacheRoute) (kind : AccessorKind) (owner : OwnerType)
      (request : PropertyRequest)
  /-- Time passes. -/
  | wait (milliseconds : Nat)
  /-- Of the entries of a kind in a cache, those with certain keys are kept. -/
  | evict (serial : Nat) (kind : AccessorKind) (keep : AccessorKey → Bool)

namespace ProgramEvent

/-- Whether this is one of the calls that may install a cache. -/
def mayInstall : ProgramEvent σ → Bool
  | .installGlobal _ | .initContext .. => true
  | .newRegistry | .declare .. | .newCache .. | .useOwn .. | .lookup .. | .wait _ | .evict .. => false

/-- Whether this uses a cache, by looking into it or by dropping entries. -/
def usesCache : ProgramEvent σ → Bool
  | .useOwn .. | .lookup .. | .evict .. => true
  | .newRegistry | .declare .. | .newCache .. | .installGlobal _ | .initContext .. | .wait _ => false

/-- What this does to a registry. -/
def declaredTo (registry : Nat) : ProgramEvent σ → List (MetadataEvent σ)
  | .declare other event => if other = registry then [event] else []
  | .newRegistry | .newCache .. | .useOwn .. | .installGlobal _ | .initContext .. | .lookup ..
  | .wait _ | .evict .. => []

end ProgramEvent

namespace Program

/-! ## Calls -/

/-- The serial of the process-wide cache. -/
def global (p : Program σ) : Option Nat := p.process.installed

/-- The serial of the cache that a reference leads to. -/
def serialOf (p : Program σ) : CacheRoute → Option Nat
  | .processWide => p.global
  | .held serial => some serial

/-- The handle that a cache remembers for a member. -/
def remembered (p : Program σ) (serial : Nat) (kind : AccessorKind) (key : AccessorKey) :
    Option (Shared (kind.Handle σ)) :=
  p.caches[serial]?.bind fun used => used.cache.remembered p.now kind key

/-- How a lookup ends that a cache answers from its registry. -/
def answerOf (p : Program σ) (serial : Nat) (kind : AccessorKind) (owner : OwnerType)
    (request : PropertyRequest) : Option (AccessorCache.Answer σ (kind.Handle σ)) :=
  p.caches[serial]?.bind fun used => used.registry.bind fun registry =>
    p.registries[registry]?.map fun metadata =>
      used.cache.find kind metadata p.now p.next owner request

/-- How a lookup by a reference ends. -/
def answer (p : Program σ) (route : CacheRoute) (kind : AccessorKind) (owner : OwnerType)
    (request : PropertyRequest) : Option (AccessorCache.Answer σ (kind.Handle σ)) :=
  (p.serialOf route).bind fun serial => p.answerOf serial kind owner request

/-- What an installation gives: the process-wide cache, if it is the given one now. -/
def installGlobal (p : Program σ) (serial : Nat) : Except Error Nat := (p.process.install serial).1

/-- What a start gives. Its cache would have the next number. -/
def initContext (p : Program σ) (config : AppConfig) (platform : TransactionPlatform) :
    Outcome (AppContext σ) :=
  (AppContext.init p.process config platform p.caches.length).1

/-! ## Steps -/

/-- Replace the content of a cache. -/
def setCache (p : Program σ) (serial : Nat) (cache : AccessorCache σ) : Program σ :=
  { p with caches := p.caches.modify serial fun used => { used with cache } }

/-- The program after an event. An event that refers to a cache or a registry that is not there does
    nothing. -/
def step (p : Program σ) : ProgramEvent σ → Program σ
  | .newRegistry => { p with registries := p.registries ++ [Metadata.empty] }
  | .declare registry event =>
    { p with registries := p.registries.modify registry fun metadata => metadata.step event }
  | .newCache limits registry =>
    match AccessorCache.build limits with
    | .ok cache => { p with caches := p.caches ++ [⟨cache, registry⟩] }
    | .error _ | .panic _ => p
  | .useOwn serial left =>
    match p.caches[serial]? with
    | some ⟨_, none⟩ => p.setCache serial left
    | some ⟨_, some _⟩ | none => p
  | .installGlobal serial =>
    if serial < p.caches.length then { p with process := (p.process.install serial).2 } else p
  | .initContext config platform =>
    match AppContext.init p.process config platform p.caches.length with
    | (.ok context, process) =>
      { p with
        process
        caches := p.caches ++ [⟨context.cache.value, some p.registries.length⟩]
        registries := p.registries ++ [context.metadata] }
    | (.error _, process) | (.panic _, process) => { p with process }
  | .lookup route kind owner request =>
    match p.serialOf route with
    | none => p
    | some serial =>
      match p.answerOf serial kind owner request with
      | none => p
      | some answer => { p.setCache serial answer.cache with next := p.next + 1 }
  | .wait milliseconds => { p with now := p.now + milliseconds }
  | .evict serial kind keep =>
    { p with caches := p.caches.modify serial fun used =>
        { used with cache := used.cache.evict kind keep } }

/-- The program after some events. -/
def after (p : Program σ) (events : List (ProgramEvent σ)) : Program σ := events.foldl step p

/-- The cache that an event makes the process-wide one, going by what the call returns. -/
def installs (p : Program σ) : ProgramEvent σ → Option Nat
  | .installGlobal serial =>
    if serial < p.caches.length then (p.installGlobal serial).toOption else none
  | .initContext config platform =>
    match p.initContext config platform with
    | .ok context => if config.accessorCache.installGlobal then some context.cache.serial else none
    | .error _ | .panic _ => none
  | .newRegistry | .declare .. | .newCache .. | .useOwn .. | .lookup .. | .wait _ | .evict .. => none

/-- The successful installations in the course of some events, the first one first. -/
def installations (p : Program σ) : List (ProgramEvent σ) → List Nat
  | [] => []
  | event :: rest => (p.installs event).toList ++ (p.step event).installations rest

/-- What is done to a registry in the course of some events. -/
def declaredTo (registry : Nat) (events : List (ProgramEvent σ)) : List (MetadataEvent σ) :=
  events.flatMap fun event => event.declaredTo registry

/-- A cache has a handle for a member after each of some events: the entry is not evicted. -/
def StaysRemembered (p : Program σ) (serial : Nat) (kind : AccessorKind) (key : AccessorKey) :
    List (ProgramEvent σ) → Prop
  | [] => True
  | event :: rest => (p.step event).remembered serial kind key ≠ none
    ∧ (p.step event).StaysRemembered serial kind key rest

theorem after_append (p : Program σ) (first second : List (ProgramEvent σ)) :
    p.after (first ++ second) = (p.after first).after second :=
  List.foldl_append

theorem after_cons (p : Program σ) (event : ProgramEvent σ) (rest : List (ProgramEvent σ)) :
    p.after (event :: rest) = (p.step event).after rest := rfl

/-! ## Installations -/

/-- An invalid configuration is refused before anything else. -/
theorem init_of_invalid (process : ProcessCache) {config : AppConfig}
    (platform : TransactionPlatform) (serial : Nat) {err : Error} (h : config.validate = .error err) :
    AppContext.init (σ := σ) process config platform serial = (.error err, process) := by
  rw [AppContext.init, h]

/-- What a start leaves as the process-wide cache, going by what it gives. -/
theorem init_installed (process : ProcessCache) (config : AppConfig)
    (platform : TransactionPlatform) (serial : Nat) :
    (AppContext.init (σ := σ) process config platform serial).2.installed
      = match (AppContext.init (σ := σ) process config platform serial).1 with
        | .ok context => process.installed.or
            (if config.accessorCache.installGlobal then some context.cache.serial else none)
        | .error _ | .panic _ => process.installed := by
  cases hvalid : config.validate with
  | error err => rw [init_of_invalid process platform serial hvalid]
  | ok checked =>
    rw [AppContext.init_of_validate process platform serial hvalid]
    by_cases hlong : longestIdleSeconds < config.accessorCache.timeToIdleSecs
    · rw [if_pos hlong]
    · rw [if_neg hlong]
      cases hglobal : config.accessorCache.installGlobal with
      | false => simp
      | true => cases hinstalled : process.installed <;> simp [AppContext.start, hinstalled]

/-- **One event** and the process-wide cache: if there is none, it is what the event installs, and
    otherwise it stays. -/
theorem global_step (p : Program σ) (event : ProgramEvent σ) :
    (p.step event).global = p.global.or (p.installs event) := by
  cases event with
  | installGlobal serial =>
    by_cases hthere : serial < p.caches.length
    · cases hglobal : p.process.installed <;>
        simp [step, installs, hthere, global, installGlobal, ProcessCache.install, hglobal,
          Except.toOption]
    · simp [step, installs, hthere]
  | initContext config platform =>
    have hinstalled := init_installed (σ := σ) p.process config platform p.caches.length
    rw [installs, initContext]
    simp only [step]
    cases hinit : AppContext.init (σ := σ) p.process config platform p.caches.length with
    | mk ended process =>
      rw [hinit] at hinstalled
      cases ended with
      | ok context => exact hinstalled
      | error err => exact hinstalled.trans Option.or_none.symm
      | panic message => exact hinstalled.trans Option.or_none.symm
  | newCache limits registry =>
    simp only [step, installs, Option.or_none]
    cases AccessorCache.build (σ := σ) limits <;> rfl
  | useOwn serial left =>
    simp only [step, installs, Option.or_none]
    split <;> rfl
  | lookup route kind owner request =>
    simp only [step, installs, Option.or_none]
    split
    · rfl
    · split <;> rfl
  | newRegistry => exact Option.or_none.symm
  | declare registry event => exact Option.or_none.symm
  | wait milliseconds => exact Option.or_none.symm
  | evict serial kind keep => exact Option.or_none.symm

/-- **A run** and the process-wide cache: if there is none, it is the first one that is installed. -/
theorem global_after (p : Program σ) (events : List (ProgramEvent σ)) :
    (p.after events).global = p.global.or (p.installations events).head? := by
  induction events generalizing p with
  | nil => exact Option.or_none.symm
  | cons event rest ih =>
    rw [after_cons, ih, global_step, Option.or_assoc, installations]
    cases p.installs event <;> rfl

/-- The caches that are there stay as they are unless one is used. -/
theorem caches_step_of_unused (p : Program σ) {event : ProgramEvent σ}
    (hunused : event.usesCache = false) {serial : Nat} (hserial : serial < p.caches.length) :
    (p.step event).caches[serial]? = p.caches[serial]? := by
  cases event with
  | newCache limits registry =>
    simp only [step]
    split
    · exact List.getElem?_append_left hserial
    · rfl
    · rfl
  | installGlobal other =>
    simp only [step]
    split <;> rfl
  | initContext config platform =>
    simp only [step]
    split
    · exact List.getElem?_append_left hserial
    · rfl
    · rfl
  | newRegistry => rfl
  | declare registry event => rfl
  | wait milliseconds => rfl
  | useOwn other left => cases hunused
  | lookup route kind owner request => cases hunused
  | evict other kind keep => cases hunused

/-- A call that installs nothing changes neither the process-wide cache nor any other. -/
theorem steady_of_installs_eq_none {p : Program σ} {event : ProgramEvent σ}
    (hcall : event.mayInstall = true) (hnone : p.installs event = none) :
    (p.step event).global = p.global
      ∧ ∀ serial, serial < p.caches.length → (p.step event).caches[serial]? = p.caches[serial]? := by
  have hunused : event.usesCache = false := by
    cases event <;> first | rfl | cases hcall
  exact ⟨by rw [global_step, hnone, Option.or_none], fun _ => p.caches_step_of_unused hunused⟩

/-- A start that does not panic stays within the longest idle time. -/
theorem not_long_of_no_panic {p : Program σ} {config : AppConfig} {platform : TransactionPlatform}
    (hvalid : config.validate = .ok ())
    (hpanic : ∀ message, p.initContext config platform ≠ .panic message) :
    ¬ longestIdleSeconds < config.accessorCache.timeToIdleSecs := by
  intro hlong
  refine hpanic idleTooLong ?_
  rw [initContext, AppContext.init_of_validate p.process platform p.caches.length hvalid,
    if_pos hlong]

/-! ## What an event can do to a cache -/

section OneCache

variable {p : Program σ} {serial registry : Nat} {cache : AccessorCache σ} {metadata : Metadata σ}

/-- What an event does to a registry. -/
theorem registry_step (h : p.registries[registry]? = some metadata) (event : ProgramEvent σ) :
    (p.step event).registries[registry]?
      = some ((event.declaredTo registry).foldl Metadata.step metadata) := by
  have hthere : registry < p.registries.length := (List.getElem?_eq_some_iff.1 h).1
  cases event with
  | newRegistry => exact (List.getElem?_append_left hthere).trans h
  | declare other change =>
    simp only [step, ProgramEvent.declaredTo, List.getElem?_modify, h]
    by_cases hother : other = registry <;> simp [hother]
  | newCache limits other =>
    simp only [step]
    split <;> exact h
  | useOwn other left =>
    simp only [step]
    split <;> exact h
  | installGlobal other =>
    simp only [step]
    split <;> exact h
  | initContext config platform =>
    simp only [step]
    split
    · exact (List.getElem?_append_left hthere).trans h
    · exact h
    · exact h
  | lookup route kind owner request =>
    simp only [step]
    split
    · exact h
    · split <;> exact h
  | wait milliseconds => exact h
  | evict other kind keep => exact h

/-- A lookup in a cache over a registry. -/
theorem answerOf_eq (h : p.caches[serial]? = some ⟨cache, some registry⟩)
    (hmetadata : p.registries[registry]? = some metadata) (kind : AccessorKind) (owner : OwnerType)
    (request : PropertyRequest) :
    p.answerOf serial kind owner request
      = some (cache.find kind metadata p.now p.next owner request) := by
  simp only [answerOf, h, hmetadata, Option.bind_some, Option.map_some]

/-- A lookup leaves the cache that it was made in as the lookup says. -/
theorem cache_step_lookup (h : p.caches[serial]? = some ⟨cache, some registry⟩)
    (hmetadata : p.registries[registry]? = some metadata) {route : CacheRoute}
    (hroute : p.serialOf route = some serial) (kind : AccessorKind) (owner : OwnerType)
    (request : PropertyRequest) :
    (p.step (.lookup route kind owner request)).caches[serial]?
      = some ⟨(cache.find kind metadata p.now p.next owner request).cache, some registry⟩ := by
  simp only [step, hroute, answerOf_eq h hmetadata, setCache, List.getElem?_modify, h, if_true,
    Option.map_eq_map, Option.map_some]

/-- **One event** and a cache over a registry: it is looked into, entries get lost, or nothing happens to
    it. Only in the last two cases may time have passed. -/
theorem cache_step (h : p.caches[serial]? = some ⟨cache, some registry⟩)
    (hmetadata : p.registries[registry]? = some metadata) (event : ProgramEvent σ) :
    ∃ left, (p.step event).caches[serial]? = some ⟨left, some registry⟩
      ∧ (left = cache ∨ (∃ kind keep, left = cache.evict kind keep)
        ∨ (p.step event).now = p.now ∧ ∃ kind owner request,
          left = (cache.find kind metadata p.now p.next owner request).cache) := by
  have hserial : serial < p.caches.length := (List.getElem?_eq_some_iff.1 h).1
  have hsame : (p.step event).caches[serial]? = p.caches[serial]? →
      ∃ left, (p.step event).caches[serial]? = some ⟨left, some registry⟩
        ∧ (left = cache ∨ (∃ kind keep, left = cache.evict kind keep)
          ∨ (p.step event).now = p.now ∧ ∃ kind owner request,
            left = (cache.find kind metadata p.now p.next owner request).cache) :=
    fun heq => ⟨cache, heq.trans h, Or.inl rfl⟩
  cases event with
  | useOwn other left =>
    refine hsame ?_
    simp only [step]
    split
    · rename_i own hown
      -- a cache over a registry has no resolver of its own
      have hother : other ≠ serial := by
        rintro rfl
        cases hown.symm.trans h
      exact List.getElem?_modify_ne _ _ hother
    · rfl
    · rfl
  | evict other kind keep =>
    by_cases hother : other = serial
    · subst hother
      refine ⟨cache.evict kind keep, ?_, Or.inr (Or.inl ⟨kind, keep, rfl⟩)⟩
      simp only [step, List.getElem?_modify, h, if_true, Option.map_eq_map,
        Option.map_some]
    · exact hsame (List.getElem?_modify_ne _ _ hother)
  | lookup route kind owner request =>
    by_cases hroute : p.serialOf route = some serial
    · refine ⟨_, cache_step_lookup h hmetadata hroute kind owner request, Or.inr (Or.inr ⟨?_, kind,
        owner, request, rfl⟩)⟩
      simp only [step, hroute, answerOf_eq h hmetadata, setCache]
    · refine hsame ?_
      simp only [step]
      split
      · rfl
      · rename_i other hother
        have hne : other ≠ serial := fun heq => hroute (heq ▸ hother)
        split
        · rfl
        · exact List.getElem?_modify_ne _ _ hne
  | newRegistry => exact hsame (p.caches_step_of_unused rfl hserial)
  | declare other change => exact hsame (p.caches_step_of_unused rfl hserial)
  | newCache limits other => exact hsame (p.caches_step_of_unused rfl hserial)
  | installGlobal other => exact hsame (p.caches_step_of_unused rfl hserial)
  | initContext config platform => exact hsame (p.caches_step_of_unused rfl hserial)
  | wait milliseconds => exact hsame (p.caches_step_of_unused rfl hserial)

end OneCache

end Program

end UnitBinding
