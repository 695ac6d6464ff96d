import UnitBinding.Property

set_option autoImplicit false

/-! # Errors

Every failure is a value of `Error`, which says what went wrong, and some carry the cause behind it.
A cause is another error of this library or one that came from outside and is known by its text only.
`Error.message` words an error; `Error.chain` lists the texts of its causes, outermost first.

A panic is no error: it is an abnormal end that callers cannot inspect. `Outcome` keeps the three
ways apart in which a computation can end. -/

namespace UnitBinding

mutual

/-- What went wrong. -/
inductive Error where
  /-- No accessor for the property: never remembered, the next lookup tries again. -/
  | propertyNotFound (owner property : String) (access : AccessType) (mode : AccessMode)
  /-- A unit's descriptor does not tell which bundle it came from. -/
  | boundaryResolution (message : String)
  /-- A failure reported by the builder of persistence units. -/
  | builder (message : String) (cause : Cause)
  /-- A type name that could not be resolved. -/
  | typeLoading (name : String) (cause : Cause)
  /-- The caller's input is at fault. -/
  | invalidArgument (message : String)
  /-- The configuration is at fault. -/
  | configuration (message : String) (cause : Cause)
  /-- A bare failure of input or output, known by its text, and what lies behind it. -/
  | ioSimple (text : String) (deeper : Cause)
  /-- The environment is at fault. -/
  | io (message : String) (cause : Cause)
  /-- Any other failure around the library. -/
  | infrastructure (message : String) (cause : Cause)
  /-- A failed conversion of a data value, known by its text, and what lies behind it. -/
  | json (text : String) (deeper : Cause)
  /-- A broken expectation inside the library. -/
  | internal (message : String)

/-- What lies behind an error. -/
inductive Cause where
  | none
  /-- An error from outside, by its text, and what lies behind it in turn. -/
  | foreign (text : String) (deeper : Cause)
  /-- An error of this library. -/
  | error (err : Error)

end

deriving instance Inhabited for Error
deriving instance Inhabited for Cause

namespace Error

/-- The wording of an error, its causes aside. -/
def message : Error → String
  | .propertyNotFound owner property access mode =>
    "Property not found: " ++ owner ++ "." ++ property ++ " (" ++ access.tag ++ " access, "
      ++ mode.tag ++ ")"
  | .boundaryResolution message => "Boundary resolution error: " ++ message
  | .builder message _ => "Builder error: " ++ message
  | .typeLoading name _ => "Unable to load type [" ++ name ++ "]"
  | .invalidArgument message => "Invalid argument: " ++ message
  | .configuration message _ => "Configuration error: " ++ message
  | .ioSimple text _ => "I/O error: " ++ text
  | .io message _ => "I/O error: " ++ message
  | .infrastructure message _ => "Infrastructure error: " ++ message
  | .json text _ => "JSON error: " ++ text
  | .internal message => "Internal error: " ++ message

/-- The name of the kind of an error. -/
def kind : Error → String
  | .propertyNotFound .. => "PropertyNotFound"
  | .boundaryResolution .. => "BoundaryResolution"
  | .builder .. => "Builder"
  | .typeLoading .. => "TypeLoading"
  | .invalidArgument .. => "InvalidArgument"
  | .configuration .. => "Configuration"
  | .ioSimple .. => "IoSimple"
  | .io .. => "Io"
  | .infrastructure .. => "Infrastructure"
  | .json .. => "Json"
  | .internal .. => "Internal"

mutual

/-- The texts of the causes of an error, outermost first. -/
def chain : Error → List String
  | .builder _ cause | .typeLoading _ cause | .configuration _ cause | .io _ cause
  | .infrastructure _ cause => causeTexts cause
  | .ioSimple text deeper | .json text deeper => text :: causeTexts deeper
  | .propertyNotFound .. | .boundaryResolution .. | .invalidArgument .. | .internal .. => []

/-- The texts from a cause on. -/
def causeTexts : Cause → List String
  | .none => []
  | .foreign text deeper => text :: causeTexts deeper
  | .error err => err.message :: chain err

end

/-- Whether a property was not found. -/
def isPropertyNotFound : Error → Bool
  | .propertyNotFound .. => true
  | _ => false

/-- A mismatch as the error of a failed conversion. Nothing lies behind it. -/
def ofMismatch (mismatch : Mismatch) : Error := .json mismatch.message .none

end Error

/-- The texts of a cause, outermost first. -/
def Cause.texts (cause : Cause) : List String := Error.causeTexts cause

/-! ## Ends of a computation -/

/-- How a computation ended. -/
inductive Outcome (α : Type) where
  | ok (value : α)
  | error (err : Error)
  | panic (message : String)
  deriving Inhabited

namespace Outcome

/-- A computation that cannot panic. -/
def ofExcept {α : Type} : Except Error α → Outcome α
  | .ok value => .ok value
  | .error err => .error err

/-- Go on after success; an error or a panic stays what it is. -/
def bind {α β : Type} (outcome : Outcome α) (next : α → Outcome β) : Outcome β :=
  match outcome with
  | .ok value => next value
  | .error err => .error err
  | .panic message => .panic message

/-- Change the value of a success. -/
def map {α β : Type} (f : α → β) (outcome : Outcome α) : Outcome β :=
  outcome.bind fun value => .ok (f value)

instance : Monad Outcome where
  pure := .ok
  bind := bind

instance : LawfulMonad Outcome :=
  LawfulMonad.mk' Outcome
    (fun outcome => by cases outcome <;> rfl)
    (fun _ _ => rfl)
    (fun outcome _ _ => by cases outcome <;> rfl)

/-- A computation goes on only after success. -/
theorem bind_eq_ok {α β : Type} {outcome : Outcome α} {next : α → Outcome β} {b : β}
    (h : outcome.bind next = .ok b) : ∃ a, outcome = .ok a ∧ next a = .ok b := by
  cases outcome with
  | ok a => exact ⟨a, rfl, h⟩
  | error err => cases h
  | panic message => cases h

theorem ofExcept_eq_ok {α : Type} {result : Except Error α} {a : α}
    (h : ofExcept result = .ok a) : result = .ok a := by
  cases result with
  | ok value => rw [Outcome.ok.inj h]
  | error err => cases h

theorem ofExcept_eq_error {α : Type} {result : Except Error α} {err : Error}
    (h : ofExcept result = .error err) : result = .error err := by
  cases result with
  | ok value => cases h
  | error fault => rw [Outcome.error.inj h]

theorem ofExcept_ne_panic {α : Type} (result : Except Error α) (message : String) :
    ofExcept result ≠ .panic message := by
  cases result <;> exact fun h => by cases h

/-- The value of a success. -/
def value? {α : Type} : Outcome α → Option α
  | .ok value => some value
  | .error _ | .panic _ => none

theorem value?_eq_some {α : Type} {outcome : Outcome α} {a : α}
    (h : outcome.value? = some a) : outcome = .ok a := by
  cases outcome with
  | ok value => rw [Option.some.inj h]
  | error err => cases h
  | panic message => cases h

end Outcome

/-- A computation in two parts succeeds exactly if both do. -/
theorem bind_eq_ok_iff {ε α β : Type} {first : Except ε α} {next : α → Except ε β} {b : β} :
    first >>= next = .ok b ↔ ∃ a, first = .ok a ∧ next a = .ok b := by
  cases first with
  | ok a => exact ⟨fun h => ⟨a, rfl, h⟩, fun ⟨_, ha, h⟩ => Except.ok.inj ha ▸ h⟩
  | error err =>
    refine ⟨fun h => ?_, fun ⟨_, ha, _⟩ => ?_⟩
    · cases h
    · cases ha

/-- It fails where the first part fails, or where the second does after the first. -/
theorem error_of_bind_eq_error {ε α β : Type} {first : Except ε α} {next : α → Except ε β} {err : ε}
    (h : first >>= next = .error err) :
    first = .error err ∨ ∃ a, first = .ok a ∧ next a = .error err := by
  cases first with
  | ok a => exact Or.inr ⟨a, rfl, h⟩
  | error fault => exact Or.inl (congrArg Except.error (Except.error.inj h))

end UnitBinding
