import UnitBinding.Proofs.Services.Run

set_option autoImplicit false

/-! # Ids as handles of registrations

What the holder of an id can rely on. In every run that does not use the counter up, ids are handed out
in growing order, an id stands for a registration from the moment it is handed out until it is taken
away (`holds_after`), and taking it away touches that one registration (`unregister_of_holds`). So the
number of registrations is known from the answers of the calls alone (`size_after`). -/

namespace UnitBinding.ServiceRegistry

/-! ## Ids handed out -/

/-- Every registration hands out an id. -/
theorem length_issued (r : ServiceRegistry) (events : List ServiceEvent) :
    (r.issued events).length = registrationCount events := by
  induction events generalizing r with
  | nil => rfl
  | cons event rest ih =>
    rw [issued, List.length_append, ih, registrationCount_cons, Nat.add_comm]
    cases event <;> rfl

/-- Ids are handed out from the counter on … -/
theorem next_le_of_mem_issued {r : ServiceRegistry} {events : List ServiceEvent}
    (hroom : r.Roomy events) {id : ServiceId} (h : id ∈ r.issued events) : r.next ≤ id.index := by
  induction events generalizing r with
  | nil => cases h
  | cons event rest ih =>
    rw [issued, List.mem_append] at h
    rcases h with hnow | hlater
    · cases event with
      | register kind service ranking =>
        rw [List.mem_singleton.1 hnow]
        exact UInt64.le_refl _
      | unregister taken => cases hnow
    · exact UInt64.le_trans (next_le_step hroom) (ih hroom.step hlater)

/-- … in growing order. -/
theorem pairwise_issued {r : ServiceRegistry} {events : List ServiceEvent}
    (hroom : r.Roomy events) :
    (r.issued events).Pairwise fun earlier later => earlier.index < later.index := by
  induction events generalizing r with
  | nil => exact List.Pairwise.nil
  | cons event rest ih =>
    cases event with
    | register kind service ranking =>
      refine List.pairwise_cons.2 ⟨fun later hlater => ?_, ih hroom.step⟩
      exact UInt64.lt_of_lt_of_le (lt_step_of_registration hroom rfl)
        (next_le_of_mem_issued hroom.step hlater)
    | unregister id => exact ih hroom.step

/-! ## Ids in use -/

theorem holds_iff {r : ServiceRegistry} {id : ServiceId} :
    r.Holds id ↔ ∃ kind, ∃ x ∈ r.registered kind, x.id = id :=
  exists_congr fun _ => Registration.present_iff

/-- A registration adds its id to those in use … -/
theorem holds_register {r : ServiceRegistry} (h : r.Orderly) (made : Capability)
    (service : Shared made.Service) (ranking : Option Int) (id : ServiceId) :
    (r.step (.register made service ranking)).Holds id ↔ r.Holds id ∨ id = r.nextId := by
  rw [holds_iff, holds_iff]
  constructor
  · rintro ⟨kind, x, hx, rfl⟩
    exact (mem_registered_step h hx).imp (fun hold => ⟨kind, x, hold, rfl⟩)
      ServiceEvent.id_of_mem_registration
  · have hmade : (r.step (.register made service ranking)).registered made
        = r.registered made ++ [⟨r.nextId, ranking.getD defaultRanking, service⟩] :=
      registered_register_self h made service _
    rintro (⟨kind, x, hx, rfl⟩ | rfl)
    · refine ⟨kind, x, ?_, rfl⟩
      by_cases hkind : kind = made
      · subst hkind
        rw [hmade]
        exact List.mem_append_left _ hx
      · rw [step, r.registered_register_of_ne hkind]
        exact hx
    · refine ⟨made, ⟨r.nextId, ranking.getD defaultRanking, service⟩, ?_, rfl⟩
      rw [hmade]
      exact List.mem_append_right _ (List.mem_singleton_self _)

/-- … and an attempt to take an id away leaves all others in use. -/
theorem holds_unregister {r : ServiceRegistry} (h : r.Orderly) (taken id : ServiceId) :
    (r.step (.unregister taken)).Holds id ↔ r.Holds id ∧ id ≠ taken := by
  rw [holds_iff, holds_iff]
  constructor
  · rintro ⟨kind, x, hx, rfl⟩
    rw [step, registered_unregister h, Registration.mem_remove] at hx
    exact ⟨⟨kind, x, hx.1, rfl⟩, hx.2⟩
  · rintro ⟨⟨kind, x, hx, rfl⟩, hne⟩
    refine ⟨kind, x, ?_, rfl⟩
    rw [step, registered_unregister h, Registration.mem_remove]
    exact ⟨hx, hne⟩

theorem mem_take_iff {r : ServiceRegistry} {taken id : ServiceId} :
    id ∈ r.take (.unregister taken) ↔ r.Holds taken ∧ id = taken := by
  rw [take]
  split
  · rename_i hsuccess
    rw [List.mem_singleton, and_iff_right (unregister_fst_iff.1 hsuccess)]
  · rename_i hfailure
    rw [unregister_fst_iff] at hfailure
    simp [hfailure]

/-- An event adds the id that it hands out to those in use, and removes the one that it takes. -/
theorem holds_step {r : ServiceRegistry} (h : r.Orderly) (event : ServiceEvent) (id : ServiceId) :
    (r.step event).Holds id ↔ (r.Holds id ∨ id ∈ r.issue event) ∧ id ∉ r.take event := by
  cases event with
  | register made service ranking =>
    have htake : id ∉ r.take (.register made service ranking) := List.not_mem_nil
    have hissue : id ∈ r.issue (.register made service ranking) ↔ id = r.nextId :=
      List.mem_singleton
    rw [and_iff_left htake, hissue, holds_register h]
  | unregister taken =>
    have hissue : id ∉ r.issue (.unregister taken) := List.not_mem_nil
    rw [or_iff_left hissue, mem_take_iff, holds_unregister h]
    constructor
    · rintro ⟨hheld, hne⟩
      exact ⟨hheld, fun htaken => hne htaken.2⟩
    · rintro ⟨hheld, hnot⟩
      exact ⟨hheld, fun heq => hnot ⟨heq ▸ hheld, heq⟩⟩

/-- **An id is in use from the moment it is handed out until it is taken away.** -/
theorem holds_after {r : ServiceRegistry} (h : r.Orderly) {events : List ServiceEvent}
    (hroom : r.Roomy events) (id : ServiceId) :
    (r.after events).Holds id ↔ (r.Holds id ∨ id ∈ r.issued events) ∧ id ∉ r.taken events := by
  induction events generalizing r with
  | nil => simp [issued, taken, after]
  | cons event rest ih =>
    show ((r.step event).after rest).Holds id ↔ _
    rw [ih (h.step hroom) hroom.step, holds_step h, issued, taken, List.mem_append,
      List.mem_append]
    constructor
    · rintro ⟨⟨hnow, htake⟩ | hlater, hkept⟩
      · exact ⟨hnow.imp_right Or.inl, not_or.2 ⟨htake, hkept⟩⟩
      · -- what is handed out later is above everything in use, so it was not taken before
        refine ⟨Or.inr (Or.inr hlater), not_or.2 ⟨fun htake => ?_, hkept⟩⟩
        cases event with
        | register kind service ranking => cases htake
        | unregister taken =>
          obtain ⟨hheld, rfl⟩ := mem_take_iff.1 htake
          obtain ⟨kind, x, hx, rfl⟩ := holds_iff.1 hheld
          have hle := UInt64.le_trans (next_le_step hroom)
            (next_le_of_mem_issued hroom.step hlater)
          exact UInt64.lt_irrefl _ (UInt64.lt_of_lt_of_le (h.below kind x hx) hle)
    · rintro ⟨hnow | hissue | hlater, hnot⟩
      · exact ⟨Or.inl ⟨Or.inl hnow, fun htake => hnot (Or.inl htake)⟩,
          fun htaken => hnot (Or.inr htaken)⟩
      · exact ⟨Or.inl ⟨Or.inr hissue, fun htake => hnot (Or.inl htake)⟩,
          fun htaken => hnot (Or.inr htaken)⟩
      · exact ⟨Or.inr hlater, fun htaken => hnot (Or.inr htaken)⟩

/-! ## Taking one registration away -/

/-- An id in use takes exactly its registration away. -/
theorem unregister_of_holds {r : ServiceRegistry} (h : r.Orderly) {id : ServiceId}
    (hheld : r.Holds id) :
    ∃ (kind : Capability) (before later : List (Registration kind.Service))
      (x : Registration kind.Service), r.registered kind = before ++ x :: later ∧ x.id = id
        ∧ r.unregister id = (true, r.withRegistered kind (before ++ later)) := by
  obtain ⟨kind, hkind⟩ : ∃ kind, r.kindOf? id = some kind := by
    rw [← Option.isSome_iff_exists, Option.isSome_iff_ne_none]
    exact fun hnone => kindOf?_eq_none_iff.1 hnone hheld
  obtain ⟨before, x, later, hsplit, hid, hremove⟩ :=
    (h.ascending kind).remove_eq (present_of_kindOf? hkind)
  refine ⟨kind, before, later, x, hsplit, hid, ?_⟩
  rw [unregister, hkind, ← hremove]

theorem size_withRegistered (r : ServiceRegistry) (kind : Capability)
    (registrations : List (Registration kind.Service)) :
    (r.withRegistered kind registrations).size + (r.registered kind).length
      = r.size + registrations.length := by
  cases kind <;> simp only [size, withRegistered, registered] <;> omega

/-- An event changes the number of registrations by what it hands out and what it takes. -/
theorem size_step {r : ServiceRegistry} (h : r.Orderly) (event : ServiceEvent) :
    (r.step event).size + (r.take event).length = r.size + (r.issue event).length := by
  cases event with
  | register kind service ranking =>
    have hsize := r.size_withRegistered kind
      (r.registered kind ++ [⟨r.nextId, ranking.getD defaultRanking, service⟩])
    rw [List.length_append] at hsize
    have hregister : (r.step (.register kind service ranking)).size
        = (r.withRegistered kind
          (r.registered kind ++ [⟨r.nextId, ranking.getD defaultRanking, service⟩])).size := by
      rw [← Registration.insert_of_lt (h.below kind)]
      rfl
    rw [hregister]
    show _ + 0 = r.size + 1
    simp only [List.length_singleton] at hsize
    omega
  | unregister id =>
    by_cases hheld : r.Holds id
    · obtain ⟨kind, before, later, x, hsplit, -, hunregister⟩ := unregister_of_holds h hheld
      have hsize := r.size_withRegistered kind (before ++ later)
      rw [hsplit, List.length_append, List.length_append, List.length_cons] at hsize
      rw [step, take, hunregister]
      show (r.withRegistered kind (before ++ later)).size + 1 = r.size + 0
      omega
    · rw [step, take, unregister_of_not_holds hheld]
      rfl

/-- The number of registrations is that of the ids handed out, less those taken away. -/
theorem size_after {r : ServiceRegistry} (h : r.Orderly) {events : List ServiceEvent}
    (hroom : r.Roomy events) :
    (r.after events).size + (r.taken events).length = r.size + (r.issued events).length := by
  induction events generalizing r with
  | nil => rfl
  | cons event rest ih =>
    have hstep := size_step h event
    have hrest := ih (h.step hroom) hroom.step
    show ((r.step event).after rest).size + _ = _
    rw [issued, taken, List.length_append, List.length_append]
    omega

/-! ## Handles -/

/-- **Ids are unique handles.** Take any run of a new registry with fewer than 2^64 - 1 registrations,
    and whatever attempts to take some away. The ids were handed out in growing order; none stands for
    registrations of two kinds, and all in use are below the counter. A further attempt succeeds
    exactly if its id was handed out and not taken away before. Then it takes that one registration
    away, and all others of all kinds stay as they are; otherwise it changes nothing. The number of
    registrations is that of the calls that registered, less the attempts that succeeded. -/
theorem ids_are_handles (includeLinked : Bool) (events : List ServiceEvent)
    (h : registrationCount events < 2 ^ 64 - 1) :
    let start := new includeLinked
    let r := start.after events
    (start.issued events).Pairwise (fun earlier later => earlier.index < later.index)
      ∧ (start.issued events).length = registrationCount events
      ∧ (∀ kind other id, Registration.present id (r.registered kind) = true →
        Registration.present id (r.registered other) = true → kind = other)
      ∧ (∀ kind, ∀ x ∈ r.registered kind, x.id.index < r.next)
      ∧ (∀ id, (r.unregister id).1 = true
        ↔ id ∈ start.issued events ∧ id ∉ start.taken events)
      ∧ (∀ id, (r.unregister id).1 = true →
        ∃ (kind : Capability) (before later : List (Registration kind.Service))
          (x : Registration kind.Service), r.registered kind = before ++ x :: later ∧ x.id = id
            ∧ (r.unregister id).2 = r.withRegistered kind (before ++ later))
      ∧ (∀ id, (r.unregister id).1 = false → (r.unregister id).2 = r)
      ∧ r.size + (start.taken events).length = registrationCount events
      ∧ (r.isEmpty = true ↔ (start.taken events).length = registrationCount events) := by
  intro start r
  have hstart : start.Orderly := orderly_new includeLinked
  have hroom : start.Roomy events := roomy_new includeLinked h
  have horderly : r.Orderly := hstart.after hroom
  have hsize : r.size + (start.taken events).length = registrationCount events := by
    have hcounts := size_after hstart hroom
    rw [length_issued] at hcounts
    exact hcounts.trans (Nat.zero_add _)
  refine ⟨pairwise_issued hroom, length_issued start events, fun kind other id hkind hother => ?_,
    horderly.below, fun id => ?_, fun id hsuccess => ?_, fun id hfailure => ?_, hsize, ?_⟩
  · by_contra hne
    rw [horderly.apart hne id hkind] at hother
    cases hother
  · -- a new registry has no ids in use, so only those handed out count
    have hnone : ¬ start.Holds id := by
      rintro ⟨kind, hkind⟩
      cases kind <;> cases hkind
    rw [unregister_fst_iff, holds_after hstart hroom, or_iff_right hnone]
  · obtain ⟨kind, before, later, x, hsplit, hid, hunregister⟩ :=
      unregister_of_holds horderly (unregister_fst_iff.1 hsuccess)
    exact ⟨kind, before, later, x, hsplit, hid, congrArg Prod.snd hunregister⟩
  · have hnot : ¬ r.Holds id := by
      rw [← unregister_fst_iff, hfailure]
      exact Bool.false_ne_true
    rw [unregister_of_not_holds hnot]
  · rw [isEmpty, decide_eq_true_iff]
    omega

/-- Services of two kinds are registered; the first is taken away, and an attempt is repeated. -/
def sampleRun : List ServiceEvent :=
  [.register .strategy ⟨1, ⟨[]⟩⟩ none, .register .integrator ⟨2, ⟨"audit", none⟩⟩ (some 5),
    .unregister ⟨1⟩, .unregister ⟨1⟩, .unregister ⟨7⟩]

/-- The second id is in use, and the first is not any more. -/
theorem ids_are_handles_repeated :
    registrationCount sampleRun < 2 ^ 64 - 1
      ∧ (((new true).after sampleRun).unregister ⟨2⟩).1 = true
      ∧ (((new true).after sampleRun).unregister ⟨1⟩).1 = false
      ∧ ((new true).after sampleRun).size = 1 := by
  have hcount : registrationCount sampleRun < 2 ^ 64 - 1 := by decide
  obtain ⟨-, -, -, -, hiff, -, -, hsize, -⟩ := ids_are_handles true sampleRun hcount
  have htaken : (new true).taken sampleRun = [⟨1⟩] := by decide
  have hissued : (new true).issued sampleRun = [⟨1⟩, ⟨2⟩] := by decide
  refine ⟨hcount, (hiff ⟨2⟩).2 ?_, ?_, ?_⟩
  · rw [hissued, htaken]
    decide
  · rw [Bool.eq_false_iff, Ne, hiff, hissued, htaken]
    decide
  · rw [htaken] at hsize
    exact Nat.succ.inj hsize

end UnitBinding.ServiceRegistry
