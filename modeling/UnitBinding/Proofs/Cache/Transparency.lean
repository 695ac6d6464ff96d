import UnitBinding.Proofs.Cache.Run

set_option autoImplicit false

/-! # When a cached answer is the resolver's own

As long as the metadata stay what they are, a cache should go unnoticed: `AccessorKind.Agrees` says
that an answer of the cache is as good as the one that the resolver gives to the same request.

Entries may get lost at any time here, so the history of a run no longer tells what is remembered.
What remains true of every entry is `Vouched`: its handle is what the metadata give for its key
under the handle's own strategy, and a lookup in the past asked for that strategy. This does not
make the cache transparent. The strategy is no part of the key, and a remembered handle also
answers the lookups with the other strategy; `answer_agrees_iff` says that these are the only ones
to be answered differently. -/

namespace UnitBinding

variable {σ : Type}

/-! ## Agreement -/

namespace AccessorKind

/-- Two handles do the same to every instance. -/
def SameUse : (kind : AccessorKind) → kind.Handle σ → kind.Handle σ → Prop
  | .getter, g, own => ∀ object, g.get object = own.get object
  | .setter, s, own => ∀ object value, s.set object value = own.set object value

theorem SameUse.refl (kind : AccessorKind) (handle : kind.Handle σ) :
    kind.SameUse handle handle := by
  cases kind with
  | getter => exact fun _ => rfl
  | setter => exact fun _ _ => rfl

/-- An answer to a request for a member under a strategy is as good as the resolver's own: both are
    the same error, or the answer is a handle of that member and strategy that does what the
    resolver's handle does. -/
def Agrees (kind : AccessorKind) (name : String) (access : AccessType) :
    Except Error (Shared (kind.Handle σ)) → Except Error (kind.Handle σ) → Prop
  | .ok handle, .ok own => kind.nameOf handle.value = name ∧ kind.accessOf handle.value = access
    ∧ kind.SameUse handle.value own
  | .error err, .error own => err = own
  | .ok _, .error _ | .error _, .ok _ => False

/-- The resolver agrees with itself. -/
theorem agrees_resolve (metadata : Metadata σ) (kind : AccessorKind) (owner : OwnerType)
    (name : String) (access : AccessType) (serial : Nat) :
    kind.Agrees name access ((metadata.resolve kind owner name access).map (Shared.mk serial))
      (metadata.resolve kind owner name access) := by
  cases hresolve : metadata.resolve kind owner name access with
  | ok handle =>
    obtain ⟨-, hname, haccess⟩ := Metadata.resolve_ok hresolve
    exact ⟨hname, haccess, SameUse.refl kind handle⟩
  | error err => rfl

/-- A handle that was resolved under some strategy agrees with the resolver on that one only. -/
theorem agrees_ok_iff {metadata : Metadata σ} {kind : AccessorKind} {owner : OwnerType}
    {name : String} {handle : Shared (kind.Handle σ)}
    (h : metadata.resolve kind owner name (kind.accessOf handle.value) = .ok handle.value)
    (access : AccessType) :
    kind.Agrees name access (.ok handle) (metadata.resolve kind owner name access)
      ↔ kind.accessOf handle.value = access := by
  constructor
  · intro hagrees
    cases hdirect : metadata.resolve kind owner name access with
    | ok own =>
      rw [hdirect] at hagrees
      exact hagrees.2.1
    | error err =>
      rw [hdirect] at hagrees
      exact hagrees.elim
  · rintro rfl
    rw [h]
    exact ⟨(Metadata.resolve_ok h).2.1, rfl, SameUse.refl kind handle.value⟩

end AccessorKind

/-! ## What is true of every entry -/

/-- A lookup of a kind asks for a member of an owner type under a strategy. -/
def CacheEvent.Asks (event : CacheEvent σ) (kind : AccessorKind) (key : AccessorKey)
    (access : AccessType) : Prop :=
  ∃ request, event = .lookup kind key.owner request ∧ request.memberName = key.name
    ∧ request.access? = some access

/-- An event that is no registration leaves the metadata alone. -/
theorem CacheEvent.declare_of_fixed {event : CacheEvent σ} (h : event.isRegistration = false)
    (metadata : Metadata σ) : event.declare metadata = metadata := by
  cases event with
  | lookup kind owner request => rfl
  | register declarations => cases h
  | remove owner => cases h
  | wait milliseconds => rfl
  | evict kind keep => rfl

/-- A handle is what the metadata give for a key under the strategy of the handle, and a lookup in
    the past asked for it. -/
structure Vouched (metadata : Metadata σ) (past : List (CacheEvent σ)) (kind : AccessorKind)
    (key : AccessorKey) (handle : kind.Handle σ) : Prop where
  resolved : metadata.resolve kind key.owner key.name (kind.accessOf handle) = .ok handle
  asked : ∃ event ∈ past, event.Asks kind key (kind.accessOf handle)

theorem Vouched.append {metadata : Metadata σ} {past : List (CacheEvent σ)} {kind : AccessorKind}
    {key : AccessorKey} {handle : kind.Handle σ} (h : Vouched metadata past kind key handle)
    (more : List (CacheEvent σ)) : Vouched metadata (past ++ more) kind key handle := by
  obtain ⟨event, hevent, hasks⟩ := h.asked
  exact ⟨h.resolved, event, List.mem_append_left more hevent, hasks⟩

namespace CacheRun

variable {run : CacheRun σ} {past : List (CacheEvent σ)}

/-- Every entry of both maps is vouched for. -/
def AllVouched (run : CacheRun σ) (past : List (CacheEvent σ)) : Prop :=
  ∀ kind, ∀ e ∈ (run.cache.mapOf kind).entries,
    Vouched run.metadata past kind e.key e.handle.value

/-- A new cache has no entries. -/
theorem allVouched_start (limits : CacheLimits) (metadata : Metadata σ) (now next : Nat) :
    (start limits metadata now next).AllVouched [] := by
  intro kind e he
  cases kind <;> exact absurd he List.not_mem_nil

/-- **One event.** What a lookup stores was there under the same key, or is what the metadata give
    under the strategy that it asks for. -/
theorem allVouched_step (h : run.AllVouched past) {event : CacheEvent σ}
    (hfixed : event.isRegistration = false) : (run.step event).AllVouched (past ++ [event]) := by
  intro kind e he
  show Vouched (event.declare run.metadata) _ kind e.key e.handle.value
  rw [CacheEvent.declare_of_fixed hfixed]
  cases event with
  | lookup asked owner request =>
    replace he : e ∈ ((run.answer asked owner request).cache.mapOf kind).entries := he
    by_cases hrefused : request.Refused
    · obtain ⟨message, hfind⟩ :=
        run.cache.find_of_refused asked run.metadata run.now run.next owner hrefused
      rw [answer, hfind] at he
      exact (h kind e he).append _
    · obtain ⟨access, haccess, hfind⟩ :=
        run.cache.find_of_accepted asked run.metadata run.now run.next owner hrefused
      rw [answer, hfind] at he
      by_cases hkind : kind = asked
      · subst hkind
        simp only [AccessorCache.mapOf_withMap_self] at he
        rcases CacheMap.mem_lookup he with ⟨d, hd, hkey, hhandle⟩ | ⟨hkey, hresolve⟩
        · -- the handle was there under this key, maybe in another entry
          have hold := (h kind d hd).append [.lookup kind owner request]
          rwa [hkey, hhandle] at hold
        · -- the handle is new, and this lookup is the one that asked for it
          obtain ⟨-, -, hown⟩ := Metadata.resolve_ok hresolve
          rw [hkey]
          refine ⟨by rw [hown]; exact hresolve, _, List.mem_append_right _ List.mem_cons_self, ?_⟩
          exact ⟨request, rfl, rfl, by rw [hown]; exact haccess⟩
      · simp only [run.cache.mapOf_withMap_of_ne _ hkind] at he
        exact (h kind e he).append _
  | register declarations => cases hfixed
  | remove owner => cases hfixed
  | wait milliseconds => exact (h kind e he).append _
  | evict other keep => exact (h kind e (AccessorCache.mem_evict he)).append _

/-- **A run.** Every entry is vouched for by what happened so far. -/
theorem allVouched_after (h : run.AllVouched past) {events : List (CacheEvent σ)}
    (hfixed : ∀ event ∈ events, event.isRegistration = false) :
    (run.after events).AllVouched (past ++ events) := by
  induction events generalizing run past with
  | nil =>
    rw [List.append_nil]
    exact h
  | cons event rest ih =>
    have hstep := allVouched_step h (hfixed event List.mem_cons_self)
    have hrest := ih hstep fun other hother => hfixed other (List.mem_cons_of_mem _ hother)
    rw [List.append_assoc] at hrest
    exact hrest

/-- The metadata stay what they are. -/
theorem metadata_after_of_fixed {events : List (CacheEvent σ)}
    (hfixed : ∀ event ∈ events, event.isRegistration = false) :
    (run.after events).metadata = run.metadata := by
  rw [metadata_after]
  induction events with
  | nil => rfl
  | cons event rest ih =>
    rw [List.foldl_cons, CacheEvent.declare_of_fixed (hfixed event List.mem_cons_self)]
    exact ih fun other hother => hfixed other (List.mem_cons_of_mem _ hother)

/-! ## Answers with fixed metadata -/

/-- A remembered handle is vouched for. -/
theorem vouched_of_remembered (h : run.AllVouched past) {kind : AccessorKind} {key : AccessorKey}
    {handle : Shared (kind.Handle σ)} (hget : run.cache.remembered run.now kind key = some handle) :
    Vouched run.metadata past kind key handle.value := by
  obtain ⟨e, he, rfl, rfl⟩ := CacheMap.exists_entry_of_get? hget
  exact h kind e (CacheMap.mem_of_mem_live he)

/-- If every entry is vouched for, the answers that disagree with the resolver are the remembered
    handles of another strategy. -/
theorem agrees_iff_of_allVouched (h : run.AllVouched past) (kind : AccessorKind)
    (owner : OwnerType) {request : PropertyRequest} {access : AccessType}
    (hname : request.memberName ≠ "") (haccess : request.access? = some access) :
    kind.Agrees request.memberName access (run.answer kind owner request).result
        (run.metadata.resolve kind owner request.memberName access)
      ↔ ∀ handle, run.cache.remembered run.now kind ⟨owner, request.memberName⟩ = some handle →
        kind.accessOf handle.value = access := by
  have haccepted := PropertyRequest.not_refused hname haccess
  cases hget : run.cache.remembered run.now kind ⟨owner, request.memberName⟩ with
  | some handle =>
    have hanswer : (run.answer kind owner request).result = .ok handle :=
      (run.cache.find_of_hit run.metadata run.next haccepted hget).1
    rw [hanswer, AccessorKind.agrees_ok_iff (vouched_of_remembered h hget).resolved]
    constructor
    · rintro hown other hother
      rw [← Option.some.inj hother, hown]
    · intro hall
      exact hall handle rfl
  | none =>
    obtain ⟨asked, hasked, -, hanswer⟩ :=
      run.cache.find_of_miss run.metadata run.next haccepted hget
    obtain rfl : access = asked := Option.some.inj (haccess.symm.trans hasked)
    rw [answer, hanswer]
    constructor
    · intro _ handle hhandle
      cases hhandle
    · intro _
      exact AccessorKind.agrees_resolve run.metadata kind owner _ access run.next

/-- **The cache is transparent except across strategies.** Take any run of a new cache on fixed
    metadata, in the course of which any entries may get lost, and a lookup of a member under a
    strategy. The answer agrees with that of the resolver exactly if no handle of the other strategy
    is remembered for the member. A remembered handle is the answer, whatever the strategy: it is
    what the resolver gives under its own strategy, which an earlier lookup asked for. Without one,
    the answer is the resolver's, whose only error is that there is no such property. So the answer
    agrees if all lookups of the member ask for one strategy. -/
theorem answer_agrees_iff (limits : CacheLimits) (metadata : Metadata σ) (now next : Nat)
    (before : List (CacheEvent σ)) (kind : AccessorKind) (owner : OwnerType)
    (request : PropertyRequest) (access : AccessType)
    (hfixed : ∀ event ∈ before, event.isRegistration = false)
    (hname : request.memberName ≠ "") (haccess : request.access? = some access) :
    let run := (start limits metadata now next).after before
    let key : AccessorKey := ⟨owner, request.memberName⟩
    let direct := metadata.resolve kind owner request.memberName access
    let answer := (run.answer kind owner request).result
    (kind.Agrees request.memberName access answer direct
        ↔ ∀ handle, run.cache.remembered run.now kind key = some handle →
          kind.accessOf handle.value = access)
      ∧ (∀ handle, run.cache.remembered run.now kind key = some handle →
        answer = .ok handle ∧ Vouched metadata before kind key handle.value)
      ∧ (run.cache.remembered run.now kind key = none → answer = direct.map (Shared.mk run.next))
      ∧ (∀ err, direct = .error err →
        err = .propertyNotFound owner.name request.memberName access kind.mode)
      ∧ ((∀ event ∈ before, ∀ other, event.Asks kind key other → other = access) →
        kind.Agrees request.memberName access answer direct) := by
  intro run key direct answer
  have hmetadata : run.metadata = metadata := metadata_after_of_fixed hfixed
  have hall : run.AllVouched before :=
    allVouched_after (allVouched_start limits metadata now next) hfixed
  have haccepted := PropertyRequest.not_refused hname haccess
  have hagrees : kind.Agrees request.memberName access answer direct
      ↔ ∀ handle, run.cache.remembered run.now kind key = some handle →
        kind.accessOf handle.value = access := by
    have hiff := agrees_iff_of_allVouched hall kind owner hname haccess
    rwa [hmetadata] at hiff
  have hvouched : ∀ handle, run.cache.remembered run.now kind key = some handle →
      Vouched metadata before kind key handle.value := by
    intro handle hget
    have hentry := vouched_of_remembered hall hget
    rwa [hmetadata] at hentry
  refine ⟨hagrees, fun handle hget => ⟨?_, hvouched handle hget⟩, fun hget => ?_,
    fun err herr => Metadata.resolve_error herr, fun hone => ?_⟩
  · exact (run.cache.find_of_hit run.metadata run.next haccepted hget).1
  · obtain ⟨asked, hasked, -, hanswer⟩ :=
      run.cache.find_of_miss run.metadata run.next haccepted hget
    obtain rfl : asked = access := Option.some.inj (hasked.symm.trans haccess)
    exact hanswer.trans (by rw [hmetadata])
  · -- every strategy that was ever asked for is this one, so every remembered handle has it
    refine hagrees.2 fun handle hget => ?_
    obtain ⟨event, hevent, hasks⟩ := (hvouched handle hget).asked
    exact hone event hevent _ hasks

/-- A property that can only be read as a field, and was: asked for its accessor methods, the cache
    hands out the getter of the field, where the resolver finds no property. -/
theorem answer_agrees_iff_field_only :
    let run := (start ⟨10, some 1000⟩ sampleMetadata 0 1).after
      [.lookup .getter (.named "Order") (.named "total" .field)]
    let answer := (run.answer .getter (.named "Order") (.named "total" .property)).result
    answer = .ok ⟨1, sampleGetter⟩
      ∧ sampleMetadata.resolve .getter (.named "Order") "total" .property
        = .error (.propertyNotFound "Order" "total" .property .read)
      ∧ ¬ AccessorKind.getter.Agrees "total" .property answer
        (sampleMetadata.resolve .getter (.named "Order") "total" .property) := by
  intro run answer
  obtain ⟨hagrees, hhit, -⟩ :=
    answer_agrees_iff ⟨10, some 1000⟩ sampleMetadata 0 1
      [.lookup .getter (.named "Order") (.named "total" .field)] .getter (.named "Order")
      (.named "total" .property) .property (by decide) (by decide) rfl
  have hremembered : run.cache.remembered run.now .getter ⟨.named "Order", "total"⟩
      = some ⟨1, sampleGetter⟩ := rfl
  refine ⟨(hhit _ hremembered).1, rfl, ?_⟩
  intro h
  exact absurd (hagrees.1 h _ hremembered) (by decide)

end CacheRun

end UnitBinding
