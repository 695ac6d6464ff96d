import UnitBinding.Lookup

set_option autoImplicit false

/-! # Failures to load a type by name

Loading a type by name asks one resolver, and a resolver is anybody's code: it may fail with any
error. What callers see is always a failure to load a type, and no failure is lost on the way. It
is put behind a new error that names the type that was asked for, unless it is a failure to load a
type already. Such a failure is passed on as it is, and then it names the type that the *resolver*
gave up on, which need not be the one that was asked for. `Error.asLoading` is that conversion, and
`loadType_of_consulted` all that the facts below need to know about `loadType`. -/

namespace UnitBinding

/-! ## Errors of resolvers -/

namespace Error

/-- The name of the type that could not be loaded, if that is what an error says. -/
def unloaded? : Error → Option String
  | .typeLoading name _ => some name
  | _ => none

/-- What the error of a resolver that was asked for a name is reported as. -/
def asLoading (name : String) (err : Error) : Error :=
  match err.unloaded? with
  | some _ => err
  | none => .typeLoading name (.error err)

theorem unloaded?_eq_some {err : Error} {name : String} :
    err.unloaded? = some name ↔ ∃ cause, err = .typeLoading name cause := by
  cases err <;> simp [unloaded?]

/-- The report names what the error named, if that is a type, and else what was asked for. -/
theorem unloaded?_asLoading (name : String) (err : Error) :
    (err.asLoading name).unloaded? = some (err.unloaded?.getD name) := by
  unfold asLoading
  cases h : err.unloaded? with
  | none => rfl
  | some other => exact h

/-- The error is in the report, as the whole of it or as the cause. -/
theorem asLoading_eq_or (name : String) (err : Error) :
    err.asLoading name = err ∨ err.asLoading name = .typeLoading name (.error err) := by
  unfold asLoading
  cases err.unloaded? with
  | none => exact Or.inr rfl
  | some other => exact Or.inl rfl

/-- An error as the cause of a failure comes first in the chain, with its own causes behind. -/
theorem chain_typeLoading_error (name : String) (err : Error) :
    (typeLoading name (.error err)).chain = err.message :: err.chain := by
  simp only [chain, causeTexts]

/-- The report names what was asked for unless the error names another type. -/
theorem unloaded?_asLoading_eq_iff {name : String} {err : Error} :
    (err.asLoading name).unloaded? = some name
      ↔ ∀ other deeper, err = .typeLoading other deeper → other = name := by
  rw [unloaded?_asLoading, Option.some_inj]
  constructor
  · rintro h other deeper rfl
    exact h
  · intro h
    cases hnamed : err.unloaded? with
    | none => rfl
    | some other =>
      obtain ⟨deeper, herr⟩ := unloaded?_eq_some.1 hnamed
      exact h other deeper herr

end Error

/-! ## The resolver that is asked -/

/-- Loading by name consults the explicit resolver, whatever is ambient, or else the ambient one. -/
inductive Consulted : Option TypeResolver → Ambient → TypeResolver → Prop where
  | explicit (resolver : TypeResolver) (ambient : Ambient) :
    Consulted (some resolver) ambient resolver
  | ambient (scope : Scope) : Consulted none (some scope) scope.value

variable {explicit : Option TypeResolver} {ambient : Ambient} {resolver : TypeResolver}

/-- Some resolver is consulted unless there is none at all. -/
theorem consulted_of_ne_none (h : ¬ (explicit = none ∧ ambient = none)) :
    ∃ resolver, Consulted explicit ambient resolver := by
  cases explicit with
  | some resolver => exact ⟨resolver, .explicit resolver ambient⟩
  | none =>
    cases ambient with
    | some scope => exact ⟨scope.value, .ambient scope⟩
    | none => exact absurd ⟨rfl, rfl⟩ h

/-- Loading by name is a question to the resolver consulted, with a report of its error. -/
theorem loadType_of_consulted (h : Consulted explicit ambient resolver) (name : String) :
    loadType name explicit ambient = (resolver.resolve name).mapError (Error.asLoading name) := by
  have hresolver : explicit.or (ambient.map (·.value)) = some resolver := by
    cases h <;> rfl
  unfold loadType
  simp only [hresolver]
  cases resolver.resolve name with
  | ok owner => rfl
  | error err =>
    -- one kind of error passes through, the other ten become the cause
    cases err <;> rfl

/-! ## Failures -/

/-- Whatever goes wrong, the failure is one to load a type. -/
theorem exists_typeLoading_of_loadType {name : String} {err : Error}
    (h : loadType name explicit ambient = .error err) :
    ∃ reported cause, err = .typeLoading reported cause := by
  by_cases hnone : explicit = none ∧ ambient = none
  · obtain ⟨rfl, rfl⟩ := hnone
    cases h
    exact ⟨name, .none, rfl⟩
  · obtain ⟨resolver, hconsulted⟩ := consulted_of_ne_none hnone
    rw [loadType_of_consulted hconsulted] at h
    cases hresolve : resolver.resolve name with
    | ok owner =>
      rw [hresolve] at h
      cases h
    | error inner =>
      rw [hresolve] at h
      obtain rfl := Except.error.inj h
      exact ⟨_, Error.unloaded?_eq_some.1 (Error.unloaded?_asLoading name inner)⟩

/-- A resolver that itself loads by name, wherever it does, adds nothing: failures are put behind a
    new error once, however many resolvers hand a request on. -/
theorem loadType_through (h : Consulted explicit ambient resolver)
    (hthrough : ∀ name, ∃ inner slot, resolver.resolve name = loadType name inner slot)
    (name : String) : loadType name explicit ambient = resolver.resolve name := by
  rw [loadType_of_consulted h]
  cases hresolve : resolver.resolve name with
  | ok owner => rfl
  | error err =>
    obtain ⟨inner, slot, hinner⟩ := hthrough name
    rw [hinner] at hresolve
    obtain ⟨reported, cause, rfl⟩ := exists_typeLoading_of_loadType hresolve
    rfl

theorem TypeResolver.resolve_ofBundle (bundle : Bundle) (name : String) :
    (TypeResolver.ofBundle bundle).resolve name
      = match bundle.loadType? name with
        | some owner => .ok owner
        | none => .error (.typeLoading name .none) := rfl

/-- What a bundle does not have is missed under the name that was asked for. -/
theorem loadType_of_bundle {bundle : Bundle} (h : Consulted explicit ambient (.ofBundle bundle))
    {name : String} (hmissing : bundle.loadType? name = none) :
    loadType name explicit ambient = .error (.typeLoading name .none) := by
  rw [loadType_of_consulted h, TypeResolver.resolve_ofBundle, hmissing]
  rfl

/-- **Loading a type by name.** The type is the one that the resolver consulted gives. A failure is
    one to load a type, and has the resolver's own error as the whole of it or as the cause, which
    then comes first in the chain. It names the type that was asked for, unless the resolver itself
    failed to load a type of another name: that name is reported then. -/
theorem loadType_reports (name : String) (explicit : Option TypeResolver) (ambient : Ambient) :
    (explicit = none → ambient = none →
        loadType name explicit ambient = .error (.typeLoading name .none))
      ∧ ∀ resolver, Consulted explicit ambient resolver →
        (∀ owner, resolver.resolve name = .ok owner →
          loadType name explicit ambient = .ok owner)
        ∧ ∀ err, resolver.resolve name = .error err →
          ∃ reported cause,
            loadType name explicit ambient = .error (.typeLoading reported cause)
              ∧ (err = .typeLoading reported cause
                ∨ reported = name ∧ cause = .error err
                  ∧ (Error.typeLoading reported cause).chain = err.message :: err.chain)
              ∧ (reported = name
                ↔ ∀ other deeper, err = .typeLoading other deeper → other = name) := by
  refine ⟨fun hexplicit hambient => by rw [hexplicit, hambient]; rfl, ?_⟩
  intro resolver hconsulted
  rw [loadType_of_consulted hconsulted]
  refine ⟨fun owner hresolve => by rw [hresolve]; rfl, ?_⟩
  intro err hresolve
  rw [hresolve]
  obtain ⟨cause, hreport⟩ := Error.unloaded?_eq_some.1 (Error.unloaded?_asLoading name err)
  refine ⟨_, cause, congrArg Except.error hreport, ?_, ?_⟩
  · rcases Error.asLoading_eq_or name err with heq | heq
    · exact Or.inl (heq.symm.trans hreport)
    · obtain ⟨hname, rfl⟩ := Error.typeLoading.inj (hreport.symm.trans heq)
      exact Or.inr ⟨hname, rfl, Error.chain_typeLoading_error _ err⟩
  · rw [← Error.unloaded?_asLoading_eq_iff, Error.unloaded?_asLoading, Option.some_inj]

/-- A resolver that goes to another place for a type, and fails there. -/
def farResolver (err : Error) : TypeResolver := .failing "far" (some err)

/-- A failure with another one behind it. -/
def cutOff : Error := .ioSimple "cut off" (.foreign "no carrier" .none)

/-- Three failures to load one type: there is no resolver; the explicit resolver is cut off, and an
    ambient one is not asked; the ambient resolver misses another type. -/
theorem loadType_reports_far :
    loadType "Order" none none = .error (.typeLoading "Order" .none)
      ∧ (∃ cause,
        loadType "Order" (some (farResolver cutOff)) (some ⟨1, default⟩)
            = .error (.typeLoading "Order" cause)
          ∧ cause.texts = ["I/O error: cut off", "cut off", "no carrier"])
      ∧ ∃ reported cause,
        loadType "Order" none (some ⟨1, farResolver (.typeLoading "Line" .none)⟩)
            = .error (.typeLoading reported cause)
          ∧ reported ≠ "Order" := by
  refine ⟨(loadType_reports "Order" none none).1 rfl rfl, ?_, ?_⟩
  · obtain ⟨-, hconsulted⟩ := loadType_reports "Order" (some (farResolver cutOff)) (some ⟨1, default⟩)
    obtain ⟨-, hfails⟩ := hconsulted _ (.explicit _ _)
    obtain ⟨reported, cause, hload, h | ⟨rfl, -, hchain⟩, -⟩ := hfails _ rfl
    · cases h
    · exact ⟨cause, hload, hchain⟩
  · obtain ⟨-, hconsulted⟩ := loadType_reports "Order" none
      (some ⟨1, farResolver (.typeLoading "Line" .none)⟩)
    obtain ⟨-, hfails⟩ := hconsulted _ (.ambient _)
    obtain ⟨reported, cause, hload, -, hreported⟩ := hfails _ rfl
    refine ⟨reported, cause, hload, fun h => ?_⟩
    exact absurd (hreported.1 h "Line" .none rfl) (by decide)

end UnitBinding
