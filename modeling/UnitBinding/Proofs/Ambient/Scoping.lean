import UnitBinding.Proofs.Ambient.Operation

set_option autoImplicit false

/-! # Scopes of the ambient resolver

A guard remembers what was in the slot when it was made, and nothing else keeps scopes apart. This
is enough as long as guards are dropped in reverse order: the slot then holds the resolver of the
latest installation whose guard is still there. `Opened` is the history, the installations not
dropped yet, and the invariant `Nested` ties the slot and the guards to it: every such guard
remembers the resolver of the installation below.

A boundary needs no such order. Its guard is dropped last, whatever the operation within did with
others. -/

namespace UnitBinding

/-! ## Sequences of installations and drops -/

/-- An installation, or the drop of a guard. Guards are numbered in the order of their installation,
    from zero. -/
inductive ScopeEvent where
  | install (scope : Scope)
  | drop (number : Nat)

/-- The slot, and the guards that were made so far. -/
structure ScopeRun where
  slot : Ambient
  guards : List Guard

namespace ScopeRun

/-- A slot before any installation. -/
def start (slot : Ambient) : ScopeRun := ⟨slot, []⟩

/-- After an event. A drop of a guard that was never made does nothing. -/
def step (run : ScopeRun) : ScopeEvent → ScopeRun
  | .install scope =>
    let (guard, slot) := Ambient.install run.slot scope
    ⟨slot, run.guards ++ [guard]⟩
  | .drop number =>
    match run.guards[number]? with
    | some guard => { run with slot := Ambient.drop guard }
    | none => run

/-- After some events. -/
def after (run : ScopeRun) (events : List ScopeEvent) : ScopeRun := events.foldl step run

end ScopeRun

/-! ## What is still open -/

/-- The number of installations so far, and those that were not dropped yet, with their numbers and
    the latest first. -/
structure Opened where
  count : Nat := 0
  scopes : List (Nat × Scope) := []

namespace Opened

/-- After an event. -/
def note (opened : Opened) : ScopeEvent → Opened
  | .install scope => ⟨opened.count + 1, (opened.count, scope) :: opened.scopes⟩
  | .drop number => ⟨opened.count, opened.scopes.eraseP fun scope => scope.1 = number⟩

/-- After some events. -/
def after (opened : Opened) (events : List ScopeEvent) : Opened := events.foldl note opened

/-- The resolver of the latest installation that was not dropped, or else the initial one. -/
def latest (initial : Ambient) (scopes : List (Nat × Scope)) : Ambient :=
  match scopes with
  | [] => initial
  | (_, scope) :: _ => some scope

/-- Whether each of some events that is a drop drops the guard of the latest installation that was
    not dropped. -/
def inReverse (opened : Opened) : List ScopeEvent → Bool
  | [] => true
  | .install scope :: rest => (opened.note (.install scope)).inReverse rest
  | .drop number :: rest =>
    opened.scopes.head?.any (fun scope => scope.1 = number)
      && (opened.note (.drop number)).inReverse rest

/-- What holds of all events holds of the first ones. -/
theorem inReverse_append {opened : Opened} (first : List ScopeEvent) {second : List ScopeEvent}
    (h : opened.inReverse (first ++ second) = true) :
    opened.inReverse first = true ∧ (opened.after first).inReverse second = true := by
  induction first generalizing opened with
  | nil => exact ⟨rfl, h⟩
  | cons event rest ih =>
    cases event with
    | install scope => exact ih h
    | drop number =>
      rw [List.cons_append, inReverse, Bool.and_eq_true] at h
      obtain ⟨hrest, hsecond⟩ := ih h.2
      refine ⟨?_, hsecond⟩
      rw [inReverse, Bool.and_eq_true]
      exact ⟨h.1, hrest⟩

end Opened

/-! ## The invariant -/

/-- The guards of the installations that were not dropped remember what lies below, down to what was
    in the slot at first. -/
def Saved (initial : Ambient) (guards : List Guard) : List (Nat × Scope) → Prop
  | [] => True
  | (number, _) :: below =>
    guards[number]? = some ⟨Opened.latest initial below⟩ ∧ Saved initial guards below

theorem Saved.append {initial : Ambient} {guards : List Guard} {scopes : List (Nat × Scope)}
    (h : Saved initial guards scopes) (more : List Guard) :
    Saved initial (guards ++ more) scopes := by
  induction scopes with
  | nil => trivial
  | cons scope below ih =>
    obtain ⟨hguard, hbelow⟩ := h
    obtain ⟨hnumber, -⟩ := List.getElem?_eq_some_iff.1 hguard
    exact ⟨by rw [List.getElem?_append_left hnumber]; exact hguard, ih hbelow⟩

namespace ScopeRun

/-- The slot and the guards are as the history tells. -/
structure Nested (initial : Ambient) (run : ScopeRun) (opened : Opened) : Prop where
  count : run.guards.length = opened.count
  slot : run.slot = Opened.latest initial opened.scopes
  saved : Saved initial run.guards opened.scopes

/-- Nothing was installed yet. -/
theorem nested_start (initial : Ambient) : Nested initial (start initial) {} :=
  ⟨rfl, rfl, trivial⟩

/-- **One event.** An installation makes a guard of what is in the slot, and the drop of the latest
    guard uncovers what that guard remembers. -/
theorem nested_step {initial : Ambient} {run : ScopeRun} {opened : Opened}
    (h : run.Nested initial opened) {event : ScopeEvent}
    (hreverse : opened.inReverse [event] = true) :
    (run.step event).Nested initial (opened.note event) := by
  obtain ⟨hcount, hslot, hsaved⟩ := h
  cases event with
  | install scope =>
    refine ⟨?_, rfl, ?_, hsaved.append _⟩
    · show (run.guards ++ [_]).length = opened.count + 1
      rw [List.length_append, hcount, List.length_singleton]
    · show (run.guards ++ [⟨run.slot⟩])[opened.count]? = _
      rw [← hcount, List.getElem?_concat_length, hslot]
  | drop number =>
    rw [Opened.inReverse, Bool.and_eq_true] at hreverse
    obtain ⟨count, scopes⟩ := opened
    cases scopes with
    | nil => exact absurd hreverse.1 Bool.false_ne_true
    | cons top below =>
      -- the guard that is dropped is the latest one, and `Saved` says what it remembers
      have htop : top.1 = number := by simpa using hreverse.1
      obtain ⟨hguard, hbelow⟩ := hsaved
      rw [htop] at hguard
      have hopened : (Opened.mk count (top :: below)).note (.drop number) = ⟨count, below⟩ := by
        rw [Opened.note, List.eraseP_cons_of_pos (by simpa using htop)]
      have hrun : run.step (.drop number)
          = { run with slot := Opened.latest initial below } := by
        simp only [step, hguard, Ambient.drop]
      rw [hopened, hrun]
      exact ⟨hcount, rfl, hbelow⟩

/-- **A run.** -/
theorem nested_after {initial : Ambient} {run : ScopeRun} {opened : Opened}
    (h : run.Nested initial opened) {events : List ScopeEvent}
    (hreverse : opened.inReverse events = true) :
    (run.after events).Nested initial (opened.after events) := by
  induction events generalizing run opened with
  | nil => exact h
  | cons event rest ih =>
    obtain ⟨hevent, hrest⟩ := Opened.inReverse_append [event] hreverse
    exact ih (nested_step h hevent) hrest

/-- Guards are only ever added. -/
theorem guards_after (run : ScopeRun) (events : List ScopeEvent) :
    ∃ more, (run.after events).guards = run.guards ++ more := by
  induction events generalizing run with
  | nil => exact ⟨[], (List.append_nil _).symm⟩
  | cons event rest ih =>
    obtain ⟨more, hmore⟩ := ih (run.step event)
    cases event with
    | install scope =>
      refine ⟨⟨run.slot⟩ :: more, hmore.trans ?_⟩
      show (run.guards ++ [⟨run.slot⟩]) ++ more = _
      rw [List.append_assoc, List.singleton_append]
    | drop number =>
      refine ⟨more, hmore.trans ?_⟩
      rw [step]
      split <;> rfl

theorem after_append (run : ScopeRun) (first second : List ScopeEvent) :
    run.after (first ++ second) = (run.after first).after second :=
  List.foldl_append

/-- A guard remembers what was in the slot before its installation, whatever happened since. -/
theorem guard_of_install (run : ScopeRun) (before rest : List ScopeEvent) (scope : Scope) :
    (run.after (before ++ .install scope :: rest)).guards[(run.after before).guards.length]?
      = some ⟨(run.after before).slot⟩ := by
  have hguards : ((run.after before).step (.install scope)).guards
      = (run.after before).guards ++ [⟨(run.after before).slot⟩] := rfl
  obtain ⟨more, hmore⟩ := guards_after ((run.after before).step (.install scope)) rest
  rw [hguards, List.append_assoc] at hmore
  rw [after_append]
  show (((run.after before).step (.install scope)).after rest).guards[_]? = _
  rw [hmore, List.getElem?_append_right (Nat.le_refl _), Nat.sub_self]
  rfl

end ScopeRun

/-! ## Scoping -/

open StateTransition in
/-- **Scopes of the ambient resolver.** Take any operation within a boundary, on any thread: with
    anything in the slot and any boundaries open around it. The operation starts with the resolver
    of the boundary in the slot and gets to the end that it has by itself, whatever it leaves in
    the slot; then the slot is what it was before, and below it goes on with that value, error or
    panic. This is what `Ambient.withBoundary` says.

    Take any sequence of installations and drops with the guards dropped in reverse order. At each
    point the slot holds the resolver of the latest installation that was not dropped, types are
    loaded as through that resolver, and each guard remembers what was in the slot before its
    installation. -/
theorem ambient_scoping :
    (∀ {ρ α β : Type} (slot : Ambient) (scope : Scope) (operation : Operation β)
      (held : List Guard) (next : Except Error β → Operation α) (stack : Stack ρ α),
      let ended := operation.run (some scope)
      let opened : Machine ρ := ⟨some scope, operation, .frame ⟨slot⟩ held next stack⟩
      let closing : Machine ρ := ⟨ended.2, .finish ended.1, .frame ⟨slot⟩ held next stack⟩
      Machine.step ⟨slot, .boundary scope operation held next, stack⟩ = some opened
        ∧ Reaches Machine.step opened closing
        ∧ Machine.step closing = some ⟨slot, .resume ended.1 held next, stack⟩
        ∧ ⟨ended.2, .finish ended.1, .done⟩
          ∈ eval Machine.step ⟨some scope, operation, .done⟩
        ∧ Ambient.withBoundary scope operation.run slot = (ended.1, slot))
      ∧ ∀ (initial : Ambient) (first second : List ScopeEvent),
        Opened.inReverse {} (first ++ second) = true →
        let run := (ScopeRun.start initial).after first
        let latest := Opened.latest initial (Opened.after {} first).scopes
        run.slot = latest
          ∧ (∀ scope, latest = some scope → ∀ name other,
            loadType name none run.slot = loadType name (some scope.value) other)
          ∧ ∀ before scope rest, first = before ++ .install scope :: rest →
            let earlier := (ScopeRun.start initial).after before
            run.guards[earlier.guards.length]? = some ⟨earlier.slot⟩ := by
  constructor
  · intro ρ α β slot scope operation held next stack ended opened closing
    -- the same operation on an empty stack: this is what it does by itself
    have hown : Reaches Machine.step ⟨some scope, operation, .done⟩
        ⟨ended.2, .finish ended.1, .done⟩ :=
      Machine.settles operation (some scope) .done
    exact ⟨rfl, Machine.settles operation (some scope) _, rfl, mem_eval.2 ⟨hown, rfl⟩, rfl⟩
  · intro initial first second hreverse run latest
    have hnested := ScopeRun.nested_after (ScopeRun.nested_start initial)
      (Opened.inReverse_append first hreverse).1
    refine ⟨hnested.slot, ?_, ?_⟩
    · intro scope hscope name other
      have hslot : run.slot = some scope := hnested.slot.trans hscope
      rw [hslot]
      rfl
    · rintro before scope rest rfl
      exact ScopeRun.guard_of_install (ScopeRun.start initial) before rest scope

/-- The resolver with a serial, of a bundle without types. -/
def sampleScope (serial : Nat) : Scope := ⟨serial, .failing "sample" none⟩

/-- An operation that keeps the guard of an installation, and panics within another boundary. -/
def sampleOperation : Operation Unit :=
  .install (sampleScope 2) fun _ =>
    .boundary (β := Unit) (sampleScope 3) (.finish (.panic "sample")) [] fun _ => .finish (.ok ())

/-- The operation leaves its own resolver behind, and the boundary takes it away; of two
    installations the later one is dropped, and the slot holds the resolver of the earlier one
    again. -/
theorem ambient_scoping_panic :
    sampleOperation.run (some (sampleScope 1)) = (.panic "sample", some (sampleScope 2))
      ∧ Ambient.withBoundary (sampleScope 1) sampleOperation.run none = (.panic "sample", none)
      ∧ ((ScopeRun.start none).after
        [.install (sampleScope 1), .install (sampleScope 2), .drop 1]).slot
        = some (sampleScope 1) := by
  obtain ⟨hboundary, hsequence⟩ := ambient_scoping
  obtain ⟨-, -, -, -, hrestored⟩ := hboundary (ρ := Unit) none (sampleScope 1) sampleOperation []
    (fun result => .finish (.ofExcept result)) .done
  obtain ⟨hslot, -, -⟩ := hsequence none
    [.install (sampleScope 1), .install (sampleScope 2), .drop 1] [] (by decide)
  exact ⟨rfl, hrestored, hslot⟩

end UnitBinding
