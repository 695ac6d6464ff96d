import UnitBinding.Proofs.Cache.Lookup

set_option autoImplicit false

/-! # Runs of a cache

A run is a list of events: lookups of both kinds in all forms of request, changes of the metadata
that the cache resolves from, time that passes, and entries that get lost. `CacheRun.after` is
where a run leads and `CacheRun.answered` is its history, the successful lookups of a kind with
their answers.

As long as nothing gets lost, the history alone decides what the cache answers. The invariant is
that the map of each kind remembers the history of that kind; `remembers_step` keeps it over one
event and `remembers_after` over a run. -/

namespace UnitBinding

variable {σ : Type}

/-! ## Events -/

/-- What can happen between the start of a cache and a lookup. -/
inductive CacheEvent (σ : Type) where
  /-- A handle is looked up. -/
  | lookup (kind : AccessorKind) (owner : OwnerType) (request : PropertyRequest)
  /-- The declarations of a type are registered or replaced. -/
  | register (declarations : TypeMetadata σ)
  /-- The declarations of a type are taken away. -/
  | remove (owner : OwnerType)
  /-- Time passes. -/
  | wait (milliseconds : Nat)
  /-- Of the entries of a kind, those with certain keys are kept. -/
  | evict (kind : AccessorKind) (keep : AccessorKey → Bool)

namespace CacheEvent

/-- Whether a handle is looked up. -/
def isLookup : CacheEvent σ → Bool
  | .lookup .. => true
  | .register _ | .remove _ | .wait _ | .evict .. => false

/-- Whether entries get lost. -/
def isEviction : CacheEvent σ → Bool
  | .evict .. => true
  | .lookup .. | .register _ | .remove _ | .wait _ => false

/-- Whether the metadata may change. -/
def isRegistration : CacheEvent σ → Bool
  | .register _ | .remove _ => true
  | .lookup .. | .wait _ | .evict .. => false

/-- The metadata after an event. -/
def declare (metadata : Metadata σ) : CacheEvent σ → Metadata σ
  | .register declarations => metadata.register declarations
  | .remove owner => metadata.remove owner
  | .lookup .. | .wait _ | .evict .. => metadata

end CacheEvent

/-- A cache in use: with the metadata behind it, the time, and the serial of the next instance. -/
structure CacheRun (σ : Type) where
  cache : AccessorCache σ
  metadata : Metadata σ
  now : Nat
  next : Nat

namespace CacheRun

/-- A new cache. -/
def start (limits : CacheLimits) (metadata : Metadata σ) (now next : Nat) : CacheRun σ :=
  ⟨AccessorCache.ofLimits limits, metadata, now, next⟩

/-- How a lookup ends at this point. -/
def answer (run : CacheRun σ) (kind : AccessorKind) (owner : OwnerType)
    (request : PropertyRequest) : AccessorCache.Answer σ (kind.Handle σ) :=
  run.cache.find kind run.metadata run.now run.next owner request

/-- The cache after an event. -/
def cacheAfter (run : CacheRun σ) : CacheEvent σ → AccessorCache σ
  | .lookup kind owner request => (run.answer kind owner request).cache
  | .evict kind keep => run.cache.evict kind keep
  | .register _ | .remove _ | .wait _ => run.cache

/-- The run after an event. -/
def step (run : CacheRun σ) (event : CacheEvent σ) : CacheRun σ :=
  { cache := run.cacheAfter event
    metadata := event.declare run.metadata
    now := match event with
      | .wait milliseconds => run.now + milliseconds
      | .lookup .. | .register _ | .remove _ | .evict .. => run.now
    next := match event with
      | .lookup .. => run.next + 1
      | .register _ | .remove _ | .wait _ | .evict .. => run.next }

/-- The run after some events. -/
def after (run : CacheRun σ) (events : List (CacheEvent σ)) : CacheRun σ :=
  events.foldl step run

/-- The answer of a kind that an event gives, if it is a successful lookup of that kind. -/
def success (run : CacheRun σ) : (kind : AccessorKind) → CacheEvent σ →
    List (AccessorKey × Shared (kind.Handle σ))
  | .getter, .lookup .getter owner request =>
    CacheMap.answered ⟨owner, request.memberName⟩ (run.answer .getter owner request).result
  | .setter, .lookup .setter owner request =>
    CacheMap.answered ⟨owner, request.memberName⟩ (run.answer .setter owner request).result
  | _, _ => []

/-- The successful lookups of a kind in the course of some events, each with its answer. -/
def answered (run : CacheRun σ) (kind : AccessorKind) : List (CacheEvent σ) →
    List (AccessorKey × Shared (kind.Handle σ))
  | [] => []
  | event :: rest => run.success kind event ++ (run.step event).answered kind rest

/-- No entry of either map has idled out. -/
def allLive (run : CacheRun σ) : Bool :=
  run.cache.getters.allLive run.cache.limits run.now
    && run.cache.setters.allLive run.cache.limits run.now

/-- No entry idles out in the course of some events. -/
def staysLive (run : CacheRun σ) : List (CacheEvent σ) → Bool
  | [] => run.allLive
  | event :: rest => run.allLive && (run.step event).staysLive rest

/-- Nothing gets lost in the course of some events: nothing is evicted, no map comes to hold more
    keys than its capacity, and no entry idles out. -/
structure Undisturbed (run : CacheRun σ) (events : List (CacheEvent σ)) : Prop where
  kept : ∀ event ∈ events, event.isEviction = false
  room : ∀ kind, distinctKeys (run.answered kind events) ≤ run.cache.limits.capacity
  live : run.staysLive events = true

/-! ## What one event does -/

theorem success_self (run : CacheRun σ) (kind : AccessorKind) (owner : OwnerType)
    (request : PropertyRequest) :
    run.success kind (.lookup kind owner request)
      = CacheMap.answered ⟨owner, request.memberName⟩ (run.answer kind owner request).result := by
  cases kind <;> rfl

theorem success_of_ne (run : CacheRun σ) {kind other : AccessorKind} (h : other ≠ kind)
    (owner : OwnerType) (request : PropertyRequest) :
    run.success other (.lookup kind owner request) = [] := by
  cases kind <;> cases other <;> first | rfl | exact absurd rfl h

/-- Only lookups succeed. -/
theorem success_of_not_lookup (run : CacheRun σ) (kind : AccessorKind) {event : CacheEvent σ}
    (h : event.isLookup = false) : run.success kind event = [] := by
  cases event with
  | lookup other owner request => cases h
  | register declarations => cases kind <;> rfl
  | remove owner => cases kind <;> rfl
  | wait milliseconds => cases kind <;> rfl
  | evict other keep => cases kind <;> rfl

theorem mapOf_live {run : CacheRun σ} (h : run.allLive = true) (kind : AccessorKind) :
    (run.cache.mapOf kind).allLive run.cache.limits run.now = true := by
  rw [allLive, Bool.and_eq_true] at h
  cases kind with
  | getter => exact h.1
  | setter => exact h.2

/-- The limits of a cache never change. -/
@[simp] theorem limits_step (run : CacheRun σ) (event : CacheEvent σ) :
    (run.step event).cache.limits = run.cache.limits := by
  cases event with
  | lookup kind owner request =>
    exact run.cache.limits_find kind run.metadata run.now run.next owner request
  | register declarations => rfl
  | remove owner => rfl
  | wait milliseconds => rfl
  | evict kind keep => exact run.cache.limits_evict kind keep

/-- **One event.** If every map remembers some answers, then after an event it remembers the answer
    that the event gave besides. -/
theorem remembers_step {run : CacheRun σ}
    {known : (kind : AccessorKind) → List (AccessorKey × Shared (kind.Handle σ))}
    (hknown : ∀ kind, (run.cache.mapOf kind).Remembers (known kind)) (hlive : run.allLive = true)
    {event : CacheEvent σ} (hkept : event.isEviction = false)
    (hroom : ∀ kind, distinctKeys (known kind ++ run.success kind event)
      ≤ run.cache.limits.capacity) (kind : AccessorKind) :
    ((run.step event).cache.mapOf kind).Remembers (known kind ++ run.success kind event) := by
  cases event with
  | lookup asked owner request =>
    show ((run.answer asked owner request).cache.mapOf kind).Remembers _
    by_cases hrefused : request.Refused
    · -- nothing is stored, and nothing was answered
      obtain ⟨message, hfind⟩ :=
        run.cache.find_of_refused asked run.metadata run.now run.next owner hrefused
      have hnone : run.success kind (.lookup asked owner request) = [] := by
        by_cases hkind : kind = asked
        · subst hkind
          rw [success_self, answer, hfind, CacheMap.answered]
        · exact run.success_of_ne hkind owner request
      rw [answer, hfind, hnone, List.append_nil]
      exact hknown kind
    · obtain ⟨access, -, hfind⟩ :=
        run.cache.find_of_accepted asked run.metadata run.now run.next owner hrefused
      by_cases hkind : kind = asked
      · -- the map that was asked
        subst hkind
        have hspace := hroom kind
        rw [success_self, answer, hfind] at hspace ⊢
        simp only [AccessorCache.mapOf_withMap_self]
        exact (hknown kind).lookup (mapOf_live hlive kind) run.next _ _ hspace
      · -- the other map
        rw [run.success_of_ne hkind, List.append_nil, answer, hfind]
        simp only [run.cache.mapOf_withMap_of_ne _ hkind]
        exact hknown kind
  | register declarations =>
    rw [run.success_of_not_lookup kind rfl, List.append_nil]
    exact hknown kind
  | remove owner =>
    rw [run.success_of_not_lookup kind rfl, List.append_nil]
    exact hknown kind
  | wait milliseconds =>
    rw [run.success_of_not_lookup kind rfl, List.append_nil]
    exact hknown kind
  | evict other keep => cases hkept

/-! ## What a run does -/

theorem after_append (run : CacheRun σ) (first second : List (CacheEvent σ)) :
    run.after (first ++ second) = (run.after first).after second :=
  List.foldl_append

/-- The metadata depends on registrations and removals only. -/
theorem metadata_after (run : CacheRun σ) (events : List (CacheEvent σ)) :
    (run.after events).metadata = events.foldl CacheEvent.declare run.metadata := by
  induction events generalizing run with
  | nil => rfl
  | cons event rest ih => exact ih (run.step event)

@[simp] theorem limits_after (run : CacheRun σ) (events : List (CacheEvent σ)) :
    (run.after events).cache.limits = run.cache.limits := by
  induction events generalizing run with
  | nil => rfl
  | cons event rest ih => exact (ih (run.step event)).trans (run.limits_step event)

theorem answered_append (run : CacheRun σ) (kind : AccessorKind)
    (first second : List (CacheEvent σ)) :
    run.answered kind (first ++ second)
      = run.answered kind first ++ (run.after first).answered kind second := by
  induction first generalizing run with
  | nil => rfl
  | cons event rest ih =>
    rw [List.cons_append, answered, answered, ih, List.append_assoc]
    rfl

theorem allLive_of_staysLive {run : CacheRun σ} {events : List (CacheEvent σ)}
    (h : run.staysLive events = true) : run.allLive = true := by
  cases events with
  | nil => exact h
  | cons event rest =>
    rw [staysLive, Bool.and_eq_true] at h
    exact h.1

/-- Staying live is a matter of each part of a run. -/
theorem staysLive_append {run : CacheRun σ} {first second : List (CacheEvent σ)}
    (h : run.staysLive (first ++ second) = true) :
    run.staysLive first = true ∧ (run.after first).staysLive second = true := by
  induction first generalizing run with
  | nil => exact ⟨allLive_of_staysLive h, h⟩
  | cons event rest ih =>
    rw [List.cons_append, staysLive, Bool.and_eq_true] at h
    obtain ⟨hfirst, hrest⟩ := ih h.2
    refine ⟨?_, hrest⟩
    rw [staysLive, Bool.and_eq_true]
    exact ⟨h.1, hfirst⟩

/-- What is undisturbed as a whole is so from the start. -/
theorem Undisturbed.first {run : CacheRun σ} {first second : List (CacheEvent σ)}
    (h : run.Undisturbed (first ++ second)) : run.Undisturbed first where
  kept event hevent := h.kept event (List.mem_append_left _ hevent)
  room kind := by
    have hroom := h.room kind
    rw [answered_append] at hroom
    exact Nat.le_trans (distinctKeys_le_append _ _) hroom
  live := (staysLive_append h.live).1

/-- **A run.** If every map remembers some answers, then after an undisturbed run it remembers the
    answers of the run besides. The induction goes forward, with the answers so far as `known`. -/
theorem remembers_after {run : CacheRun σ}
    (known : (kind : AccessorKind) → List (AccessorKey × Shared (kind.Handle σ)))
    (hknown : ∀ kind, (run.cache.mapOf kind).Remembers (known kind))
    {events : List (CacheEvent σ)} (hkept : ∀ event ∈ events, event.isEviction = false)
    (hroom : ∀ kind, distinctKeys (known kind ++ run.answered kind events)
      ≤ run.cache.limits.capacity)
    (hlive : run.staysLive events = true) (kind : AccessorKind) :
    ((run.after events).cache.mapOf kind).Remembers (known kind ++ run.answered kind events) := by
  induction events generalizing run known with
  | nil =>
    rw [answered, List.append_nil]
    exact hknown kind
  | cons event rest ih =>
    rw [staysLive, Bool.and_eq_true] at hlive
    have hspace : ∀ kind, distinctKeys (known kind ++ run.success kind event
        ++ (run.step event).answered kind rest) ≤ run.cache.limits.capacity := by
      intro kind
      rw [List.append_assoc]
      exact hroom kind
    have hstep := remembers_step hknown hlive.1 (hkept event List.mem_cons_self)
      fun kind => Nat.le_trans (distinctKeys_le_append _ _) (hspace kind)
    rw [answered, ← List.append_assoc]
    refine ih _ hstep (fun other hother => hkept other (List.mem_cons_of_mem _ hother)) ?_ hlive.2
    intro kind
    rw [limits_step]
    exact hspace kind

/-- A new cache remembers the history of an undisturbed run. -/
theorem Undisturbed.remembers {limits : CacheLimits} {metadata : Metadata σ} {now next : Nat}
    {events : List (CacheEvent σ)} (h : (start limits metadata now next).Undisturbed events)
    (kind : AccessorKind) :
    (((start limits metadata now next).after events).cache.mapOf kind).Remembers
      ((start limits metadata now next).answered kind events) := by
  have hempty : ∀ kind, ((start limits metadata now next).cache.mapOf kind).Remembers [] := by
    intro kind
    cases kind <;> exact CacheMap.Remembers.nil
  exact remembers_after (fun _ => []) hempty h.kept h.room h.live kind

/-! ## Answers within an undisturbed run -/

/-- **The cache remembers the first success, and nothing else.** Take any undisturbed run of a new
    cache that ends with a lookup. A refused request fails without a resolution and changes nothing.
    Any other request gets the handle of an earlier successful lookup of its kind on its owner type
    and member name, whatever the strategies asked for and whatever happened to the metadata since;
    if there was none, it gets what the metadata of this moment give. Only successes are stored, and
    the counts are those of the members that were found. -/
theorem answer_of_undisturbed (limits : CacheLimits) (metadata : Metadata σ) (now next : Nat)
    (before : List (CacheEvent σ)) (kind : AccessorKind) (owner : OwnerType)
    (request : PropertyRequest)
    (h : (start limits metadata now next).Undisturbed
      (before ++ [.lookup kind owner request])) :
    let run := (start limits metadata now next).after before
    let history := (start limits metadata now next).answered
    let key : AccessorKey := ⟨owner, request.memberName⟩
    let answer := run.answer kind owner request
    (request.Refused →
        (∃ message, answer.result = .error (.invalidArgument message))
          ∧ answer.resolved = false ∧ answer.cache = run.cache)
      ∧ (¬ request.Refused → ∀ handle, (key, handle) ∈ history kind before →
        answer.result = .ok handle ∧ answer.resolved = false)
      ∧ (¬ request.Refused → (∀ handle, (key, handle) ∉ history kind before) →
        ∃ access, request.access? = some access ∧ answer.resolved = true
          ∧ answer.result = ((before.foldl CacheEvent.declare metadata).resolve kind owner
            request.memberName access).map (Shared.mk run.next))
      ∧ (∀ err, answer.result = .error err → answer.cache = run.cache)
      ∧ (∀ handle, answer.result = .ok handle →
        (answer.cache.mapOf kind).get? limits run.now key = some handle)
      ∧ run.cache.stats run.now
        = (distinctKeys (history .getter before), distinctKeys (history .setter before)) := by
  intro run history key answer
  have hlimits : run.cache.limits = limits := limits_after _ before
  have hrest : run.staysLive [.lookup kind owner request] = true := (staysLive_append h.live).2
  have hlive : run.allLive = true := allLive_of_staysLive hrest
  have hmap : ∀ kind, (run.cache.mapOf kind).Remembers (history kind before) := h.first.remembers
  have hmetadata : run.metadata = before.foldl CacheEvent.declare metadata :=
    metadata_after _ before
  refine ⟨fun hrefused => ?_, fun haccepted handle hmem => ?_, fun haccepted hnone => ?_,
    fun err herr => ?_, fun handle hok => ?_, ?_⟩
  · obtain ⟨message, hfind⟩ :=
      run.cache.find_of_refused kind run.metadata run.now run.next owner hrefused
    have hanswer : answer = ⟨.error (.invalidArgument message), run.cache, false⟩ := hfind
    rw [hanswer]
    exact ⟨⟨message, rfl⟩, rfl, rfl⟩
  · have hget := ((hmap kind).get?_eq_some_iff (mapOf_live hlive kind) key handle).2 hmem
    exact run.cache.find_of_hit run.metadata run.next haccepted hget
  · have hget := ((hmap kind).get?_eq_none_iff (mapOf_live hlive kind) key).2 hnone
    rw [← hmetadata]
    exact run.cache.find_of_miss run.metadata run.next haccepted hget
  · exact run.cache.find_of_failure run.metadata run.next herr
  · -- the lookup is itself part of the undisturbed run
    have hafter := h.remembers kind
    rw [after_append, answered_append] at hafter
    have hstep : (run.step (.lookup kind owner request)).allLive = true := by
      rw [staysLive, Bool.and_eq_true] at hrest
      exact hrest.2
    have hstored := (hafter.get?_eq_some_iff (mapOf_live hstep kind) key handle).2 (by
      refine List.mem_append_right _ ?_
      show (key, handle) ∈ run.success kind (.lookup kind owner request) ++ []
      rw [List.append_nil, success_self, hok]
      exact List.mem_singleton_self _)
    rw [limits_step, hlimits] at hstored
    exact hstored
  · exact Prod.ext ((hmap .getter).size_eq (mapOf_live hlive .getter))
      ((hmap .setter).size_eq (mapOf_live hlive .setter))

/-- A property that is to be read as a field, and not to be written. -/
def sampleProperty : PropertyMetadata Nat :=
  ⟨"total", .field, fun state => .str (toString state), none⟩

/-- A type that declares the one property. -/
def sampleMetadata : Metadata Nat := Metadata.empty.register ⟨.named "Order", [sampleProperty]⟩

/-- The getter of the property. -/
def sampleGetter : Getter Nat := ⟨.named "Order", "total", .field, sampleProperty.read⟩

/-- Uses of a cache in the course of which the type is taken away. -/
def sampleEvents : List (CacheEvent Nat) :=
  [.lookup .getter (.named "Order") (.named "total" .field),
    .lookup .setter (.named "Order") (.mapped ⟨"sum", "total", .field⟩), .wait 5, .remove (.named "Order")]

/-- The getter of a type that is gone is still found, even under the other strategy. -/
theorem answer_of_undisturbed_removed :
    (start ⟨10, some 1000⟩ sampleMetadata 0 1).Undisturbed
        (sampleEvents ++ [.lookup .getter (.named "Order") (.tagged "total" "property")])
      ∧ (((start ⟨10, some 1000⟩ sampleMetadata 0 1).after sampleEvents).answer .getter (.named "Order")
        (.tagged "total" "property")).result = .ok ⟨1, sampleGetter⟩
      ∧ ((start ⟨10, some 1000⟩ sampleMetadata 0 1).after sampleEvents).cache.stats 5 = (1, 0) := by
  have hundisturbed : (start ⟨10, some 1000⟩ sampleMetadata 0 1).Undisturbed
      (sampleEvents ++ [.lookup .getter (.named "Order") (.tagged "total" "property")]) :=
    { kept := by decide
      room := by
        intro kind
        cases kind <;> decide
      live := by decide }
  obtain ⟨-, hhit, -, -, -, hstats⟩ :=
    answer_of_undisturbed ⟨10, some 1000⟩ sampleMetadata 0 1 sampleEvents .getter (.named "Order")
      (.tagged "total" "property") hundisturbed
  have haccepted : ¬ (PropertyRequest.tagged "total" "property").Refused :=
    PropertyRequest.not_refused (by decide) rfl
  exact ⟨hundisturbed, (hhit haccepted ⟨1, sampleGetter⟩ (List.mem_singleton_self _)).1, hstats⟩

end CacheRun

end UnitBinding
