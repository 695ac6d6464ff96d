import Mathlib.Data.List.Nodup
import UnitBinding.ServiceRegistry

set_option autoImplicit false

/-! # Lists of registrations

The registrations of one kind are a map from ids, and two facts about ids carry everything else: no id
occurs twice, and ids grow in the order of registration. Both are said by `Registration.Ascending`.

`RankedOrder` is the order of discovery without ids: rankings descend, and the registrations of one
ranking stand in the order in which they were made. It leaves no choice (`RankedOrder.offers_eq`), and
sorting by ranking and id brings it about from any enumeration of the map (`rankedOrder_ranked`). -/

namespace UnitBinding.Registration

variable {α : Type}

/-! ## Ids -/

theorem present_iff {id : ServiceId} {registrations : List (Registration α)} :
    present id registrations = true ↔ ∃ r ∈ registrations, r.id = id := by
  simp [present]

theorem mem_remove {id : ServiceId} {r : Registration α} {registrations : List (Registration α)} :
    r ∈ remove id registrations ↔ r ∈ registrations ∧ r.id ≠ id := by
  simp [remove]

/-- An id that is not there takes nothing away. -/
theorem remove_of_not_present {id : ServiceId} {registrations : List (Registration α)}
    (h : present id registrations = false) : remove id registrations = registrations := by
  refine List.filter_eq_self.2 fun r hr => decide_eq_true fun hid => ?_
  rw [present_iff.2 ⟨r, hr, hid⟩] at h
  cases h

/-- The ids grow from registration to registration. -/
def Ascending (registrations : List (Registration α)) : Prop :=
  registrations.Pairwise fun a b => a.id.index < b.id.index

/-- A registration under a greater id comes last. -/
theorem insert_of_lt {r : Registration α} {registrations : List (Registration α)}
    (h : ∀ x ∈ registrations, x.id.index < r.id.index) :
    insert r registrations = registrations ++ [r] := by
  have habsent : present r.id registrations = false := by
    rw [Bool.eq_false_iff]
    intro hpresent
    obtain ⟨x, hx, hid⟩ := present_iff.1 hpresent
    have hlt := h x hx
    rw [hid] at hlt
    exact UInt64.lt_irrefl _ hlt
  rw [insert, remove_of_not_present habsent]

/-- One id stands for one registration. -/
theorem Ascending.eq_of_id_eq {registrations : List (Registration α)}
    (h : Ascending registrations) {a b : Registration α} (ha : a ∈ registrations)
    (hb : b ∈ registrations) (hid : a.id = b.id) : a = b := by
  have hnodup : (registrations.map (·.id)).Nodup :=
    List.pairwise_map.2 (h.imp fun hlt heq => UInt64.ne_of_lt hlt (congrArg ServiceId.index heq))
  exact List.inj_on_of_nodup_map hnodup ha hb hid

/-- Taking an id away that is there takes exactly one registration away. -/
theorem Ascending.remove_eq {registrations : List (Registration α)} (h : Ascending registrations)
    {id : ServiceId} (hpresent : present id registrations = true) :
    ∃ before r after, registrations = before ++ r :: after ∧ r.id = id
      ∧ Registration.remove id registrations = before ++ after := by
  obtain ⟨r, hr, rfl⟩ := present_iff.1 hpresent
  obtain ⟨before, after, rfl⟩ := List.append_of_mem hr
  refine ⟨before, r, after, rfl, rfl, ?_⟩
  obtain ⟨-, hafter, hbefore⟩ := List.pairwise_append.1 h
  have hkept : ∀ part : List (Registration α), (∀ x ∈ part, x.id ≠ r.id) →
      Registration.remove r.id part = part := by
    intro part hpart
    exact List.filter_eq_self.2 fun x hx => decide_eq_true (hpart x hx)
  have hhead : Registration.remove r.id (r :: after) = Registration.remove r.id after :=
    List.filter_cons_of_neg (by simp)
  show (before ++ r :: after).filter _ = _
  rw [List.filter_append]
  show Registration.remove r.id before ++ Registration.remove r.id (r :: after) = _
  rw [hhead, hkept before, hkept after]
  · intro x hx hid
    exact UInt64.ne_of_lt ((List.pairwise_cons.1 hafter).1 x hx) (congrArg ServiceId.index hid.symm)
  · intro x hx hid
    exact UInt64.ne_of_lt (hbefore x hx r List.mem_cons_self) (congrArg ServiceId.index hid)

/-! ## The order of discovery -/

/-- What a registration offers, its id aside. -/
def offer (r : Registration α) : Int × Shared α := (r.ranking, r.service)

/-- Registrations in the order of their discovery: each of them once, by descending ranking, and
    those of one ranking as they were registered. -/
structure RankedOrder (registered found : List (Registration α)) : Prop where
  each : found.Perm registered
  descending : found.Pairwise fun a b => b.ranking ≤ a.ranking
  steady : ∀ ranking, found.filter (fun r => r.ranking = ranking)
    = registered.filter fun r => r.ranking = ranking

/-- A list in descending order is known by its parts of one rank each. -/
theorem eq_of_descending {β : Type} (rank : β → Int) {first second : List β}
    (hfirst : first.Pairwise fun a b => rank b ≤ rank a)
    (hsecond : second.Pairwise fun a b => rank b ≤ rank a)
    (h : ∀ k, first.filter (fun b => rank b = k) = second.filter fun b => rank b = k) :
    first = second := by
  induction first generalizing second with
  | nil =>
    cases second with
    | nil => rfl
    | cons b rest => simpa using h (rank b)
  | cons a rest ih =>
    cases second with
    | nil => simpa using h (rank a)
    | cons b others =>
      -- the greatest rank is found in both lists, so both start with it
      have ha : a ∈ b :: others :=
        List.mem_of_mem_filter (p := fun x => rank x = rank a) (by rw [← h]; simp)
      have hb : b ∈ a :: rest :=
        List.mem_of_mem_filter (p := fun x => rank x = rank b) (by rw [h]; simp)
      obtain ⟨hrest, hdescends⟩ := List.pairwise_cons.1 hfirst
      obtain ⟨hothers, hdescend⟩ := List.pairwise_cons.1 hsecond
      have hle : rank a ≤ rank b := by
        rcases List.mem_cons.1 ha with rfl | ha
        · exact Int.le_refl _
        · exact hothers a ha
      have hge : rank b ≤ rank a := by
        rcases List.mem_cons.1 hb with rfl | hb
        · exact Int.le_refl _
        · exact hrest b hb
      have hrank : rank b = rank a := Int.le_antisymm hge hle
      have hheads := h (rank a)
      rw [List.filter_cons_of_pos (by simp), List.filter_cons_of_pos (by simp [hrank])] at hheads
      obtain ⟨rfl, -⟩ := List.cons.inj hheads
      congr 1
      refine ih hdescends hdescend fun k => ?_
      have hk := h k
      by_cases hka : rank a = k
      · rw [List.filter_cons_of_pos (by simp [hka]), List.filter_cons_of_pos (by simp [hka])] at hk
        exact (List.cons.inj hk).2
      · rw [List.filter_cons_of_neg (by simp [hka]), List.filter_cons_of_neg (by simp [hka])] at hk
        exact hk

/-- **Only rankings and services matter.** If two registers offer the same, what is found is the same,
    whatever the ids. -/
theorem RankedOrder.offers_eq {first second found others : List (Registration α)}
    (hfirst : RankedOrder first found) (hsecond : RankedOrder second others)
    (h : first.map offer = second.map offer) : found.map offer = others.map offer := by
  have hdescending : ∀ {registered found : List (Registration α)}, RankedOrder registered found →
      (found.map offer).Pairwise fun a b => b.1 ≤ a.1 := by
    intro registered found horder
    exact List.pairwise_map.2 horder.descending
  have hsteady : ∀ {registered found : List (Registration α)}, RankedOrder registered found →
      ∀ k, (found.map offer).filter (fun o => o.1 = k)
        = (registered.map offer).filter fun o => o.1 = k := by
    intro registered found horder k
    rw [List.filter_map, List.filter_map]
    exact congrArg (List.map offer) (horder.steady k)
  refine eq_of_descending Prod.fst (hdescending hfirst) (hdescending hsecond) fun k => ?_
  rw [hsteady hfirst, hsteady hsecond, h]

/-! ## Sorting by ranking and id -/

theorem precedes_iff {a b : Registration α} :
    precedes a b = true ↔ b.ranking < a.ranking
      ∨ a.ranking = b.ranking ∧ a.id.index.toNat ≤ b.id.index.toNat := by
  simp [precedes, UInt64.le_iff_toNat_le]

theorem precedes_total (a b : Registration α) : (precedes a b || precedes b a) = true := by
  rw [Bool.or_eq_true, precedes_iff, precedes_iff]
  omega

theorem precedes_trans (a b c : Registration α) (hab : precedes a b = true)
    (hbc : precedes b c = true) : precedes a c = true := by
  rw [precedes_iff] at *
  omega

theorem ranking_le_of_precedes {a b : Registration α} (h : precedes a b = true) :
    b.ranking ≤ a.ranking := by
  rw [precedes_iff] at h
  omega

theorem pairwise_ranked (registrations : List (Registration α)) :
    (ranked registrations).Pairwise fun a b => precedes a b = true :=
  List.pairwise_mergeSort precedes_trans precedes_total registrations

/-- **Sorting finds the order of discovery**, in whatever order the registrations were enumerated. -/
theorem rankedOrder_ranked {registered enumerated : List (Registration α)}
    (h : Ascending registered) (hperm : enumerated.Perm registered) :
    RankedOrder registered (ranked enumerated) := by
  have heach : (ranked enumerated).Perm registered := (List.mergeSort_perm _ _).trans hperm
  refine ⟨heach, (pairwise_ranked enumerated).imp ranking_le_of_precedes, fun ranking => ?_⟩
  -- both sides have growing ids: within a ranking, sorting goes by ids alone
  have hsorted : ((ranked enumerated).filter fun r => r.ranking = ranking).Pairwise
      fun a b => a.id.index ≤ b.id.index := by
    refine List.pairwise_filter.2 ((pairwise_ranked enumerated).imp ?_)
    intro a b hab ha hb
    rw [precedes_iff] at hab
    rw [decide_eq_true_eq] at ha hb
    rw [UInt64.le_iff_toNat_le]
    omega
  have hascending : (registered.filter fun r => r.ranking = ranking).Pairwise
      fun a b => a.id.index ≤ b.id.index :=
    (List.Pairwise.filter _ h).imp UInt64.le_of_lt
  refine List.Perm.eq_of_pairwise ?_ hsorted hascending (heach.filter _)
  intro a b ha hb hab hba
  have hid : a.id = b.id := congrArg ServiceId.mk (UInt64.le_antisymm hab hba)
  exact h.eq_of_id_eq (heach.mem_iff.1 (List.mem_of_mem_filter ha)) (List.mem_of_mem_filter hb) hid

end UnitBinding.Registration
