import UnitBinding.Proofs.Process.Run

set_option autoImplicit false

/-! # The process-wide cache of a run

There are two questions about a process-wide cache: which one it is, and what it answers. The first is
settled by the successful installations of a run, of which only the first counts. The second is about the
case that the first installation came with a context, whose metadata the cache then resolves from.
`Program.Backed` is the invariant for it: the cache is still there with one entry for each key, and every
entry was resolved from the registry of the context as it was at some point. It holds from the start of
the context on (`backed_of_start`) and is kept by every event (`Backed.step`). -/

namespace UnitBinding

variable {σ : Type}

/-! ## Registries that grow -/

/-- A registry at some point on the way to its current state. -/
def Metadata.Past (declared : List (MetadataEvent σ)) (metadata : Metadata σ) : Prop :=
  ∃ earlier, earlier <+: declared ∧ metadata = Metadata.after earlier

theorem Metadata.past_self (declared : List (MetadataEvent σ)) :
    Metadata.Past declared (Metadata.after declared) :=
  ⟨declared, List.prefix_rfl, rfl⟩

theorem Metadata.Past.append {declared : List (MetadataEvent σ)} {metadata : Metadata σ}
    (h : Metadata.Past declared metadata) (more : List (MetadataEvent σ)) :
    Metadata.Past (declared ++ more) metadata := by
  obtain ⟨earlier, hearlier, heq⟩ := h
  exact ⟨earlier, hearlier.trans (List.prefix_append _ _), heq⟩

namespace Program

/-! ## The cache of a context -/

/-- A cache has the registry of its context behind it, with so much declared: it has certain limits and
    one entry for each key, and every entry was resolved from the registry at some point. -/
structure Backed (p : Program σ) (serial registry : Nat) (limits : CacheLimits)
    (declared : List (MetadataEvent σ)) (cache : AccessorCache σ) : Prop where
  there : p.caches[serial]? = some ⟨cache, some registry⟩
  metadata : p.registries[registry]? = some (Metadata.after declared)
  limits : cache.limits = limits
  unique : cache.Unique
  resolved : cache.ResolvedFrom (Metadata.Past declared)

section Backed

variable {p : Program σ} {serial registry : Nat} {limits : CacheLimits}
  {declared : List (MetadataEvent σ)} {cache : AccessorCache σ}

/-- Only a valid configuration starts a context. -/
theorem validate_of_initContext {config : AppConfig} {platform : TransactionPlatform}
    {context : AppContext σ} (h : p.initContext config platform = .ok context) :
    config.validate = .ok () := by
  cases hvalid : config.validate with
  | ok checked => rfl
  | error err =>
    rw [initContext, init_of_invalid p.process platform p.caches.length hvalid] at h
    cases h

/-- The cache of a new context. -/
theorem backed_of_start (p : Program σ) {config : AppConfig} {platform : TransactionPlatform}
    {context : AppContext σ} (h : p.initContext config platform = .ok context) :
    context.cache.serial = p.caches.length
      ∧ ∃ cache, (p.step (.initContext config platform)).Backed p.caches.length
        p.registries.length config.accessorCache.limits [] cache := by
  have hinit := AppContext.init_of_validate (σ := σ) p.process platform p.caches.length
    (validate_of_initContext h)
  rw [initContext] at h
  split at hinit
  · rw [hinit] at h
    cases h
  · split at hinit
    · rw [hinit] at h
      cases h
    · rw [hinit] at h
      obtain rfl := Outcome.ok.inj h
      refine ⟨rfl, .ofLimits config.accessorCache.limits, ?_⟩
      -- the new cache and the new registry are the last ones
      refine ⟨?_, ?_, rfl, AccessorCache.unique_ofLimits _,
        AccessorCache.resolvedFrom_ofLimits _ _⟩
      · simp only [step, hinit]
        exact List.getElem?_concat_length
      · simp only [step, hinit]
        exact List.getElem?_concat_length

/-- **One event** leaves the cache of a context backed. -/
theorem Backed.step (h : p.Backed serial registry limits declared cache) (event : ProgramEvent σ) :
    ∃ left, (p.step event).Backed serial registry limits
      (declared ++ event.declaredTo registry) left := by
  obtain ⟨left, hthere, hleft⟩ := cache_step h.there h.metadata event
  have hmetadata : (p.step event).registries[registry]?
      = some (Metadata.after (declared ++ event.declaredTo registry)) := by
    rw [registry_step h.metadata event, Metadata.after, Metadata.after, List.foldl_append]
  have hresolved : cache.ResolvedFrom (Metadata.Past (declared ++ event.declaredTo registry)) :=
    h.resolved.mono fun _ hpast => hpast.append _
  have hbefore : Metadata.Past (declared ++ event.declaredTo registry) (Metadata.after declared) :=
    (Metadata.past_self declared).append _
  suffices hkept : left.limits = limits ∧ left.Unique
      ∧ left.ResolvedFrom (Metadata.Past (declared ++ event.declaredTo registry)) from
    ⟨left, hthere, hmetadata, hkept.1, hkept.2.1, hkept.2.2⟩
  rcases hleft with rfl | ⟨kind, keep, rfl⟩ | ⟨-, kind, owner, request, rfl⟩
  · exact ⟨h.limits, h.unique, hresolved⟩
  · exact ⟨(cache.limits_evict kind keep).trans h.limits, h.unique.evict kind keep,
      hresolved.evict kind keep⟩
  · exact ⟨(cache.limits_find kind _ _ _ _ _).trans h.limits, h.unique.find kind,
      hresolved.find hbefore kind⟩

/-- **A run** leaves the cache of a context backed. -/
theorem Backed.after (h : p.Backed serial registry limits declared cache)
    (events : List (ProgramEvent σ)) :
    ∃ left, (p.after events).Backed serial registry limits
      (declared ++ Program.declaredTo registry events) left := by
  induction events generalizing p declared cache with
  | nil => exact ⟨cache, by rwa [Program.declaredTo, List.flatMap_nil, List.append_nil]⟩
  | cons event rest ih =>
    obtain ⟨left, hstep⟩ := h.step event
    obtain ⟨last, hrest⟩ := ih hstep
    rw [List.append_assoc] at hrest
    exact ⟨last, hrest⟩

/-! ## Remembered handles -/

theorem Backed.remembered (h : p.Backed serial registry limits declared cache)
    (kind : AccessorKind) (key : AccessorKey) :
    p.remembered serial kind key = cache.remembered p.now kind key := by
  rw [Program.remembered, h.there, Option.bind_some]

/-- A handle that is still remembered after an event is the one that was remembered before. -/
theorem Backed.remembered_step (h : p.Backed serial registry limits declared cache)
    {event : ProgramEvent σ} {kind : AccessorKind} {key : AccessorKey}
    {before after : Shared (kind.Handle σ)} (hbefore : p.remembered serial kind key = some before)
    (hafter : (p.step event).remembered serial kind key = some after) : after = before := by
  obtain ⟨left, hthere, hleft⟩ := cache_step h.there h.metadata event
  rw [h.remembered] at hbefore
  rw [Program.remembered, hthere, Option.bind_some] at hafter
  rcases hleft with rfl | ⟨other, keep, rfl⟩ | ⟨hnow, other, owner, request, rfl⟩
  · exact h.unique.remembered_later hbefore hafter
  · exact h.unique.remembered_evict other keep hbefore hafter
  · rw [hnow] at hafter
    exact h.unique.remembered_find other hbefore hafter

/-- A handle that is never evicted in the course of some events is remembered after them. -/
theorem Backed.remembered_after (h : p.Backed serial registry limits declared cache)
    {events : List (ProgramEvent σ)} {kind : AccessorKind} {key : AccessorKey}
    {handle : Shared (kind.Handle σ)} (hbefore : p.remembered serial kind key = some handle)
    (hstays : p.StaysRemembered serial kind key events) :
    (p.after events).remembered serial kind key = some handle := by
  induction events generalizing p declared cache with
  | nil => exact hbefore
  | cons event rest ih =>
    obtain ⟨hthis, hrest⟩ := hstays
    obtain ⟨other, hother⟩ := Option.ne_none_iff_exists'.1 hthis
    obtain rfl := h.remembered_step hbefore hother
    obtain ⟨left, hstep⟩ := h.step event
    exact ih hstep hother hrest

/-! ## Lookups -/

theorem Backed.answer (h : p.Backed serial registry limits declared cache) {route : CacheRoute}
    (hroute : p.serialOf route = some serial) (kind : AccessorKind) (owner : OwnerType)
    (request : PropertyRequest) :
    p.answer route kind owner request
      = some (cache.find kind (Metadata.after declared) p.now p.next owner request) := by
  rw [Program.answer, hroute, Option.bind_some, answerOf_eq h.there h.metadata]

/-- The handle of a successful lookup is remembered right after it. -/
theorem Backed.remembered_lookup (h : p.Backed serial registry limits declared cache)
    (hroom : limits.capacity ≠ 0) (hidle : limits.idle ≠ some 0) {route : CacheRoute}
    (hroute : p.serialOf route = some serial) {kind : AccessorKind} {owner : OwnerType}
    {request : PropertyRequest} {handle : Shared (kind.Handle σ)}
    (hok : (cache.find kind (Metadata.after declared) p.now p.next owner request).result
      = .ok handle) :
    (p.step (.lookup route kind owner request)).remembered serial kind ⟨owner, request.memberName⟩
      = some handle := by
  have hnow : (p.step (.lookup route kind owner request)).now = p.now := by
    simp only [Program.step, hroute, answerOf_eq h.there h.metadata, setCache]
  rw [Program.remembered, cache_step_lookup h.there h.metadata hroute, Option.bind_some, hnow]
  exact AccessorCache.remembered_find_self (h.limits.symm ▸ hroom) (h.limits.symm ▸ hidle) hok

/-- A handle that was found once is remembered as long as it is not evicted. -/
theorem Backed.remembered_of_found (h : p.Backed serial registry limits declared cache)
    (hroom : limits.capacity ≠ 0) (hidle : limits.idle ≠ some 0) {route : CacheRoute}
    (hroute : p.serialOf route = some serial) {kind : AccessorKind} {owner : OwnerType}
    {request : PropertyRequest} {found : AccessorCache.Answer σ (kind.Handle σ)}
    {handle : Shared (kind.Handle σ)} (hanswer : p.answer route kind owner request = some found)
    (hok : found.result = .ok handle) {rest : List (ProgramEvent σ)}
    (hstays : (p.step (.lookup route kind owner request)).StaysRemembered serial kind
      ⟨owner, request.memberName⟩ rest) :
    (p.after (.lookup route kind owner request :: rest)).remembered serial kind
      ⟨owner, request.memberName⟩ = some handle := by
  rw [h.answer hroute] at hanswer
  obtain rfl := Option.some.inj hanswer
  have hright := h.remembered_lookup hroom hidle hroute hok
  obtain ⟨left, hleft⟩ := h.step (.lookup route kind owner request)
  rw [after_cons]
  exact hleft.remembered_after hright hstays

/-- A remembered handle is what every lookup of the member gives. -/
theorem Backed.answer_of_remembered (h : p.Backed serial registry limits declared cache)
    {route : CacheRoute} (hroute : p.serialOf route = some serial) {kind : AccessorKind}
    {owner : OwnerType} {request : PropertyRequest} (haccepted : ¬ request.Refused)
    {handle : Shared (kind.Handle σ)}
    (hremembered : p.remembered serial kind ⟨owner, request.memberName⟩ = some handle) :
    ∃ found, p.answer route kind owner request = some found
      ∧ found.result = .ok handle ∧ found.resolved = false := by
  rw [h.remembered] at hremembered
  exact ⟨_, h.answer hroute kind owner request, cache.find_of_hit _ _ haccepted hremembered⟩

/-- Without a remembered handle a lookup gives what the registry declares. -/
theorem Backed.answer_of_forgotten (h : p.Backed serial registry limits declared cache)
    {route : CacheRoute} (hroute : p.serialOf route = some serial) {kind : AccessorKind}
    {owner : OwnerType} {request : PropertyRequest} (haccepted : ¬ request.Refused)
    (hforgotten : p.remembered serial kind ⟨owner, request.memberName⟩ = none) :
    ∃ found access, p.answer route kind owner request = some found
      ∧ request.access? = some access ∧ found.resolved = true
      ∧ found.result = ((Metadata.after declared).resolve kind owner request.memberName access).map
        (Shared.mk p.next) := by
  rw [h.remembered] at hforgotten
  obtain ⟨access, haccess, hresolved, hresult⟩ :=
    cache.find_of_miss (Metadata.after declared) p.next haccepted hforgotten
  exact ⟨_, access, h.answer hroute kind owner request, haccess, hresolved, hresult⟩

/-- Whatever a lookup gives, the registry declared it at some point. -/
theorem Backed.resolved_of_answer (h : p.Backed serial registry limits declared cache)
    {route : CacheRoute} (hroute : p.serialOf route = some serial) {kind : AccessorKind}
    {owner : OwnerType} {request : PropertyRequest}
    {found : AccessorCache.Answer σ (kind.Handle σ)} {handle : Shared (kind.Handle σ)}
    (hanswer : p.answer route kind owner request = some found) (hok : found.result = .ok handle) :
    ∃ metadata, Metadata.Past declared metadata
      ∧ metadata.resolve kind owner request.memberName (kind.accessOf handle.value)
        = .ok handle.value := by
  rw [h.answer hroute] at hanswer
  obtain rfl := Option.some.inj hanswer
  exact h.resolved.of_find (Metadata.past_self declared) hok

end Backed

/-- A valid configuration gives room for entries, and time. -/
theorem limits_of_validate {config : AppConfig} (h : config.validate = .ok ()) :
    config.accessorCache.limits.capacity ≠ 0 ∧ config.accessorCache.limits.idle ≠ some 0 := by
  have hroom : config.accessorCache.maxCapacity ≠ 0 := by
    intro hzero
    rw [AppConfig.validate] at h
    split at h
    · cases h
    · rw [if_pos hzero] at h
      cases h
  rw [AccessorCacheConfig.limits_eq]
  refine ⟨hroom, ?_⟩
  by_cases hidle : config.accessorCache.timeToIdleSecs = 0
  · simp [hidle]
  · simp only [if_neg hidle, ne_eq, Option.some.injEq]
    omega

/-! ## The whole of a run -/

/-- What an installation does at some point of a run. -/
structure InstallsOnce (p : Program σ) (serial : Nat) : Prop where
  first : p.global = none →
    p.installGlobal serial = .ok serial ∧ (p.step (.installGlobal serial)).global = some serial
  later : p.global ≠ none → ∃ message, p.installGlobal serial = .error (.internal message)

/-- What a start that does not panic does at some point of a run. -/
structure StartsOnce (p : Program σ) (config : AppConfig) (platform : TransactionPlatform) :
    Prop where
  invalid : config.validate ≠ .ok () →
    ∃ err, p.initContext config platform = .error err ∧ err.IsConfiguration
  beside : config.validate = .ok () → config.accessorCache.installGlobal = false →
    ∃ context, p.initContext config platform = .ok context
  first : config.validate = .ok () → config.accessorCache.installGlobal = true →
    p.global = none → ∃ context, p.initContext config platform = .ok context
      ∧ (p.step (.initContext config platform)).global = some context.cache.serial
  later : config.validate = .ok () → config.accessorCache.installGlobal = true →
    p.global ≠ none → ∃ message, p.initContext config platform = .error (.internal message)

/-- A reference leads to the process-wide cache, by that name or as the cache of its context. -/
def IsShared (own : Nat) (route : CacheRoute) : Prop := route = .processWide ∨ route = .held own

/-- What the process-wide cache does when some events have happened since it was installed with a
    context, whose cache and registry have certain numbers. -/
structure SharedWithContext (first : Program σ) (own registry : Nat)
    (events : List (ProgramEvent σ)) : Prop where
  /-- It is the cache of the context. -/
  global : (first.after events).global = some own
  /-- A lookup through either reference ends like one through the other. -/
  same : ∀ kind owner request, (first.after events).answer .processWide kind owner request
    = (first.after events).answer (.held own) kind owner request
  /-- Once a lookup through either reference found a handle, the lookups of the member through both hit
      it until it is evicted, whatever strategy they ask for. -/
  hit : ∀ earlier route kind owner request rest handle,
    events = earlier ++ .lookup route kind owner request :: rest → IsShared own route →
    (∃ found, (first.after earlier).answer route kind owner request = some found
      ∧ found.result = .ok handle) →
    ((first.after earlier).step (.lookup route kind owner request)).StaysRemembered own kind
      ⟨owner, request.memberName⟩ rest →
    ∀ other, IsShared own other → ∀ again : PropertyRequest, ¬ again.Refused →
      again.memberName = request.memberName →
      ∃ found, (first.after events).answer other kind owner again = some found
        ∧ found.result = .ok handle ∧ found.resolved = false
  /-- Without a remembered handle, a lookup gives what was registered through the context. -/
  miss : ∀ route, IsShared own route → ∀ kind owner (request : PropertyRequest), ¬ request.Refused →
    (first.after events).remembered own kind ⟨owner, request.memberName⟩ = none →
    ∃ found access, (first.after events).answer route kind owner request = some found
      ∧ request.access? = some access ∧ found.resolved = true
      ∧ found.result = ((Metadata.after (declaredTo registry events)).resolve kind owner
        request.memberName access).map (Shared.mk (first.after events).next)
  /-- Every handle that is ever found is one that the registrations through the context gave, up to some
      point. -/
  found : ∀ route, IsShared own route → ∀ kind owner request found handle,
    (first.after events).answer route kind owner request = some found → found.result = .ok handle →
    ∃ metadata, Metadata.Past (declaredTo registry events) metadata
      ∧ metadata.resolve kind owner request.memberName (kind.accessOf handle.value)
        = .ok handle.value

theorem installsOnce (p : Program σ) {serial : Nat} (hserial : serial < p.caches.length) :
    p.InstallsOnce serial where
  first hnone := by
    rw [global] at hnone
    simp [installGlobal, step, hserial, global, ProcessCache.install, hnone]
  later hsome := by
    obtain ⟨installed, hinstalled⟩ := Option.ne_none_iff_exists'.1 hsome
    rw [global] at hinstalled
    exact ⟨_, by rw [installGlobal, ProcessCache.install, hinstalled]; rfl⟩

theorem startsOnce (p : Program σ) {config : AppConfig} {platform : TransactionPlatform}
    (hpanic : ∀ message, p.initContext config platform ≠ .panic message) :
    p.StartsOnce config platform := by
  cases hvalid : config.validate with
  | error err =>
    have hne : config.validate ≠ .ok () := by simp [hvalid]
    refine ⟨fun _ => ⟨err, ?_, ConfigLoader.isConfiguration_of_validate hvalid⟩,
      fun hok => absurd hok hne, fun hok => absurd hok hne, fun hok => absurd hok hne⟩
    rw [initContext, init_of_invalid p.process platform p.caches.length hvalid]
  | ok checked =>
    have hinit := AppContext.init_of_validate (σ := σ) p.process platform p.caches.length hvalid
    rw [if_neg (not_long_of_no_panic hvalid hpanic)] at hinit
    refine ⟨fun hne => absurd hvalid hne, fun _ hbeside => ?_, fun _ hinstall hnone => ?_,
      fun _ hinstall hsome => ?_⟩
    · rw [initContext, hinit, hbeside]
      exact ⟨_, rfl⟩
    · rw [global] at hnone
      rw [hinstall, hnone] at hinit
      refine ⟨_, by rw [initContext, hinit]; rfl, ?_⟩
      simp only [step, hinit]
      rfl
    · obtain ⟨installed, hinstalled⟩ := Option.ne_none_iff_exists'.1 hsome
      rw [global] at hinstalled
      rw [initContext, hinit, hinstall, hinstalled]
      exact ⟨_, rfl⟩

/-- The first installation comes with a context. -/
theorem sharedWithContext {p : Program σ} {config : AppConfig} {platform : TransactionPlatform}
    {context : AppContext σ} (hnone : p.global = none)
    (hok : p.initContext config platform = .ok context)
    (hinstall : config.accessorCache.installGlobal = true) (events : List (ProgramEvent σ)) :
    (p.step (.initContext config platform)).SharedWithContext context.cache.serial
      p.registries.length events := by
  obtain ⟨hserial, cache, hstart⟩ := p.backed_of_start hok
  obtain ⟨hroom, hidle⟩ := limits_of_validate (validate_of_initContext hok)
  rw [hserial]
  have hinstalled : (p.step (.initContext config platform)).global = some p.caches.length := by
    rw [global_step, hnone, installs, hok, Option.none_or]
    simp only [hinstall, if_true, hserial]
  have hglobal : ∀ events, ((p.step (.initContext config platform)).after events).global
      = some p.caches.length := by
    intro events
    rw [global_after, hinstalled, Option.some_or]
  have hroute : ∀ events, ∀ route, IsShared p.caches.length route →
      ((p.step (.initContext config platform)).after events).serialOf route
        = some p.caches.length := by
    rintro events route (rfl | rfl)
    · exact hglobal events
    · rfl
  obtain ⟨left, hleft⟩ := hstart.after events
  refine ⟨hglobal events, fun kind owner request => ?_, ?_,
    fun route hshared kind owner request haccepted hforgotten =>
      hleft.answer_of_forgotten (hroute events route hshared) haccepted hforgotten,
    fun route hshared kind owner request found handle hanswer hresult =>
      hleft.resolved_of_answer (hroute events route hshared) hanswer hresult⟩
  · rw [hleft.answer (hroute events _ (Or.inl rfl)), hleft.answer (hroute events _ (Or.inr rfl))]
  · intro earlier route kind owner request rest handle hevents hshared hfound hstays other hother
      again haccepted hsame
    obtain ⟨found, hanswer, hresult⟩ := hfound
    -- what the lookup found, at its own point of the run, is still there at the end
    obtain ⟨before, hbefore⟩ := hstart.after earlier
    have hlast := hbefore.remembered_of_found hroom hidle (hroute earlier route hshared) hanswer
      hresult hstays
    rw [← after_append, ← hevents, ← hsame] at hlast
    exact hleft.answer_of_remembered (hroute events other hother) haccepted hlast

/-- **The process-wide cache is installed once.** Take any run of a program that starts without a
    process-wide cache, and whatever caches and registries it has.

    * The process-wide cache is the first one that was successfully installed, and there is none before.
    * While there is none, an installation succeeds; later every one fails with an internal error.
    * A start that does not panic fails with a configuration error if the configuration is invalid, and
      otherwise it succeeds unless it is to install its cache and there is one already: then the error is
      internal.
    * None of the failing or non-installing calls changes which cache it is, or any cache.
    * If the first installation came with a context, the process-wide cache and the one of the context
      hit each other's handles, and see the metadata registered through the context and no other. -/
theorem global_installed_once {begin : Program σ} (hbegin : begin.global = none)
    (events : List (ProgramEvent σ)) :
    let p := begin.after events
    p.global = (begin.installations events).head?
      ∧ (∀ serial, serial < p.caches.length → p.InstallsOnce serial)
      ∧ (∀ config platform, (∀ message, p.initContext config platform ≠ .panic message) →
        p.StartsOnce config platform)
      ∧ (∀ event, event.mayInstall = true → p.installs event = none →
        (p.step event).global = p.global
          ∧ ∀ serial, serial < p.caches.length →
            (p.step event).caches[serial]? = p.caches[serial]?)
      ∧ ∀ before config platform later context,
        events = before ++ .initContext config platform :: later →
        (begin.after before).global = none →
        (begin.after before).initContext config platform = .ok context →
        config.accessorCache.installGlobal = true →
        ((begin.after before).step (.initContext config platform)).SharedWithContext
          context.cache.serial (begin.after before).registries.length later := by
  intro p
  refine ⟨?_, fun serial hserial => p.installsOnce hserial,
    fun config platform hpanic => p.startsOnce hpanic,
    fun event hcall hnone => steady_of_installs_eq_none hcall hnone,
    fun before config platform later context _ hnone hok hinstall =>
      sharedWithContext hnone hok hinstall later⟩
  rw [global_after, hbegin, Option.none_or]

/-- A configuration without room for entries. -/
def roomless : AppConfig := { accessorCache := { maxCapacity := 0 } }

/-- A configuration that leaves the process-wide cache alone. -/
def aside : AppConfig := { accessorCache := { installGlobal := false } }

def samplePlatform : TransactionPlatform := ⟨"local", true⟩

/-- What happens before the process-wide cache is installed. -/
def preparing : List (ProgramEvent Nat) :=
  [.newCache ⟨5, none⟩ none, .initContext roomless samplePlatform,
    .initContext aside samplePlatform]

/-- A type is registered in the registry of the context. -/
def registering : List (ProgramEvent Nat) :=
  [.declare 1 (.registerType (.named "Order") [CacheRun.sampleProperty])]

/-- A getter is looked up through the process-wide cache. -/
def reading : ProgramEvent Nat := .lookup .processWide .getter (.named "Order") (.named "total" .field)

/-- The second context installs the third cache, which hits the getter for the other strategy as well;
    another installation and an invalid start fail as they should. -/
theorem global_installed_once_with_context :
    let p := ({} : Program Nat).after
      (preparing ++ .initContext {} samplePlatform :: (registering ++ [reading]))
    ({} : Program Nat).global = none
      ∧ p.global = some 2
      ∧ (∃ message, p.installGlobal 0 = .error (.internal message))
      ∧ (∃ err, p.initContext roomless samplePlatform = .error err ∧ err.IsConfiguration)
      ∧ ∃ found, p.answer (.held 2) .getter (.named "Order") (.named "total" .property) = some found
        ∧ found.result = .ok ⟨0, CacheRun.sampleGetter⟩ ∧ found.resolved = false := by
  intro p
  obtain ⟨hglobal, hinstall, hstart, -, hshared⟩ :=
    global_installed_once (rfl : ({} : Program Nat).global = none)
      (preparing ++ .initContext {} samplePlatform :: (registering ++ [reading]))
  have hfirst : (({} : Program Nat).installations
      (preparing ++ .initContext {} samplePlatform :: (registering ++ [reading]))).head? = some 2 := by
    decide +kernel
  have hsome : p.global ≠ none := by
    rw [hglobal, hfirst]
    exact Option.some_ne_none 2
  have hcontext : ((({} : Program Nat).after preparing).initContext {} samplePlatform).value?.isSome
      = true := by decide +kernel
  obtain ⟨context, hcontext⟩ := Option.isSome_iff_exists.1 hcontext
  have hok := Outcome.value?_eq_some hcontext
  have hserial : context.cache.serial = 2 :=
    (backed_of_start _ hok).1.trans (by decide +kernel)
  have hshared := hshared preparing {} samplePlatform (registering ++ [reading]) context rfl
    (by decide +kernel) hok rfl
  rw [hserial] at hshared
  refine ⟨rfl, hglobal.trans hfirst, (hinstall 0 (by decide +kernel)).later hsome, ?_, ?_⟩
  · have hinvalid : roomless.validate = .error AppConfig.noCapacity := rfl
    refine (hstart roomless samplePlatform fun message hpanic => ?_).invalid fun hvalid => ?_
    · rw [initContext, init_of_invalid _ _ _ hinvalid] at hpanic
      cases hpanic
    · rw [hinvalid] at hvalid
      cases hvalid
  · refine hshared.hit registering .processWide .getter (.named "Order") (.named "total" .field) [] _ rfl
      (Or.inl rfl) ?_ trivial (.held 2) (Or.inr rfl) (.named "total" .property)
      (PropertyRequest.not_refused (by decide) rfl) rfl
    exact ⟨_, rfl, rfl⟩

end Program

end UnitBinding
