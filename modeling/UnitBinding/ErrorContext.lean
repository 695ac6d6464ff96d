import UnitBinding.Error

set_option autoImplicit false

/-! # Errors in context

A failure of some lower layer reaches callers with a line of context before its text. Which kind of
error it becomes says who is at fault: the environment, the configuration, the caller's input, or
anything else. Three of the four keep the failure as the cause of the new error; for the caller's
input the text alone is kept. -/

namespace UnitBinding

/-- A failure that context can be given to. -/
inductive Failure where
  /-- One that came from outside, by its text and what lies behind it. -/
  | foreign (text : String) (deeper : Cause)
  /-- An error of this library. -/
  | error (err : Error)

namespace Failure

/-- The text of a failure. -/
def message : Failure → String
  | .foreign text _ => text
  | .error err => err.message

/-- The failure as the cause of another error. -/
def cause : Failure → Cause
  | .foreign text deeper => .foreign text deeper
  | .error err => .error err

/-- The texts behind a failure, outermost first. -/
def chain : Failure → List String
  | .foreign _ deeper => deeper.texts
  | .error err => err.chain

/-- A failure as the cause of an error comes first in the chain, with its own causes behind. -/
@[simp] theorem texts_cause (f : Failure) : f.cause.texts = f.message :: f.chain := by
  cases f <;> simp [cause, Cause.texts, message, chain, Error.causeTexts]

end Failure

/-- Who is at fault. -/
inductive Blame where
  | other
  | environment
  | configuration
  | argument
  deriving DecidableEq

/-- The error that a failure becomes in a context. -/
def Failure.inContext (blame : Blame) (context : String) (f : Failure) : Error :=
  let message := context ++ ": " ++ f.message
  match blame with
  | .other => .infrastructure message f.cause
  | .environment => .io message f.cause
  | .configuration => .configuration message f.cause
  | .argument => .invalidArgument message

/-- Give context to the failure of a computation; a success passes through. -/
def withContext {α : Type} (blame : Blame) (context : String) :
    Except Failure α → Except Error α
  | .ok value => .ok value
  | .error f => .error (f.inContext blame context)

/-! ## Whole numbers in text -/

/-- Why a text is no whole number between two bounds. -/
inductive NumberFault where
  | empty
  | invalidDigit
  | tooLarge
  | tooSmall
  deriving DecidableEq

/-- The wording of a number fault. -/
def NumberFault.message : NumberFault → String
  | .empty => "cannot parse integer from empty string"
  | .invalidDigit => "invalid digit found in string"
  | .tooLarge => "number too large to fit in target type"
  | .tooSmall => "number too small to fit in target type"

/-- The whole number of a text: an optional sign and decimal digits, within 32 bits. Digits are
    checked from the left, so a number that leaves the range is refused there and then. -/
def parseInt32 (s : String) : Except NumberFault Int :=
  match s.toList with
  | [] => .error .empty
  | ['+'] | ['-'] => .error .invalidDigit
  | '-' :: digits => below digits 0
  | '+' :: digits => above digits 0
  | digits => above digits 0
where
  above : List Char → Int → Except NumberFault Int
    | [], n => .ok n
    | c :: rest, n =>
      if !c.isDigit then .error .invalidDigit
      else
        let next := 10 * n + (c.toNat - 48 : Nat)
        if Int.pow 2 31 ≤ next then .error .tooLarge else above rest next
  below : List Char → Int → Except NumberFault Int
    | [], n => .ok n
    | c :: rest, n =>
      if !c.isDigit then .error .invalidDigit
      else
        let next := 10 * n - (c.toNat - 48 : Nat)
        if next < -(Int.pow 2 31) then .error .tooSmall else below rest next

end UnitBinding
