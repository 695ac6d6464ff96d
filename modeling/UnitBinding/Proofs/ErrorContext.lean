import UnitBinding.ErrorContext

set_option autoImplicit false

/-! # Chains of context

A failure travels up through several layers, and each of them may give it a line of context. Three of
the four ways to do that keep the failure as the cause of the new error. The fourth, which blames the
caller's input, keeps no cause, and with that the chain of causes ends there. What is never lost is the
text: every error repeats the text of the failure below it, so the text of the last one is all lines,
outermost first, with the text of the first failure at the end (`message_withinAll`). -/

namespace UnitBinding

/-! ## One line -/

/-- The kind of the errors that blame somebody. -/
def Blame.kind : Blame → String
  | .other => "Infrastructure"
  | .environment => "Io"
  | .configuration => "Configuration"
  | .argument => "InvalidArgument"

/-- How the texts of these errors start. -/
def Blame.opening : Blame → String
  | .other => "Infrastructure error: "
  | .environment => "I/O error: "
  | .configuration => "Configuration error: "
  | .argument => "Invalid argument: "

/-- A line of context, and who is at fault. -/
structure ContextLine where
  blame : Blame
  context : String
  deriving DecidableEq

/-- What a line puts in front of the text of a failure. -/
def ContextLine.lead (line : ContextLine) : String :=
  line.blame.opening ++ (line.context ++ ": ")

namespace Failure

/-- The error that a failure becomes. -/
def within (line : ContextLine) (f : Failure) : Error := f.inContext line.blame line.context

variable (line : ContextLine) (f : Failure)

theorem kind_within : (f.within line).kind = line.blame.kind := by
  obtain ⟨blame, context⟩ := line
  cases blame <;> rfl

theorem message_within : (f.within line).message = line.lead ++ f.message := by
  obtain ⟨blame, context⟩ := line
  unfold ContextLine.lead
  rw [String.append_assoc]
  cases blame <;> rfl

/-- The failure heads the chain of the error, unless the caller's input is blamed. -/
theorem chain_within :
    (f.within line).chain = if line.blame = .argument then [] else f.message :: f.chain := by
  obtain ⟨blame, context⟩ := line
  have hcause := f.texts_cause
  cases blame with
  | argument => rfl
  | other | environment | configuration => exact hcause

end Failure

/-! ## Several lines -/

/-- What several lines put in front, the last one outermost. -/
def ContextLine.leads (lines : List ContextLine) : String :=
  String.join (lines.reverse.map lead)

theorem ContextLine.leads_cons (line : ContextLine) (rest : List ContextLine) :
    leads (line :: rest) = leads rest ++ line.lead := by
  simp [leads]

/-- A failure with several lines of context, given one after the other. -/
def Failure.withinAll (lines : List ContextLine) (f : Failure) : Failure :=
  lines.foldl (fun f line => .error (f.within line)) f

theorem Failure.withinAll_append (first second : List ContextLine) (f : Failure) :
    f.withinAll (first ++ second) = (f.withinAll first).withinAll second :=
  List.foldl_append

/-- **No text is lost.** -/
theorem Failure.message_withinAll (lines : List ContextLine) (f : Failure) :
    (f.withinAll lines).message = ContextLine.leads lines ++ f.message := by
  induction lines generalizing f with
  | nil => exact (String.empty_append).symm
  | cons line rest ih =>
    have hfirst : (Failure.error (f.within line)).message = line.lead ++ f.message :=
      f.message_within line
    show (Failure.withinAll rest (.error (f.within line))).message = _
    rw [ih, hfirst, ContextLine.leads_cons, String.append_assoc]

/-- Give several lines of context to the failure of a computation, one after the other. -/
def withContexts {α : Type} (lines : List ContextLine) (result : Except Failure α) :
    Except Failure α :=
  lines.foldl (fun result line => (withContext line.blame line.context result).mapError .error)
    result

theorem withContexts_ok {α : Type} (lines : List ContextLine) (a : α) :
    withContexts lines (.ok a) = .ok a := by
  induction lines with
  | nil => rfl
  | cons line rest ih => exact ih

theorem withContexts_error {α : Type} (lines : List ContextLine) (f : Failure) :
    (withContexts lines (.error f) : Except Failure α) = .error (f.withinAll lines) := by
  induction lines generalizing f with
  | nil => rfl
  | cons line rest ih => exact ih (.error (f.within line))

/-- **Chains of context.** Give any lines of context, one after the other, to a computation. A success
    passes through. A failure, be it an error of the library or one from outside, becomes a failure whose
    text is all lines, outermost first, and the text of the first failure at the end. And whatever lines
    there were before, the next one makes it an error of the kind that the line calls for. Its text is
    the opening of that kind, the context, a colon and the text before. The chain of its causes is empty
    if the caller's input is blamed; otherwise it starts with the text before, and goes on with the chain
    before. -/
theorem context_chain {α : Type} (f : Failure) (lines : List ContextLine) :
    (∀ a : α, withContexts lines (.ok a) = .ok a)
      ∧ ∃ last : Failure, (withContexts lines (.error f) : Except Failure α) = .error last
        ∧ last.message = String.join (lines.reverse.map fun line =>
          line.blame.opening ++ (line.context ++ ": ")) ++ f.message
        ∧ ∀ line : ContextLine, ∃ err : Error,
          (withContexts (lines ++ [line]) (.error f) : Except Failure α) = .error (.error err)
            ∧ err.kind = line.blame.kind
            ∧ err.message = line.blame.opening ++ (line.context ++ ": ") ++ last.message
            ∧ err.chain = if line.blame = .argument then [] else last.message :: last.chain := by
  refine ⟨withContexts_ok lines, f.withinAll lines, withContexts_error lines f,
    f.message_withinAll lines, fun line => ?_⟩
  refine ⟨(f.withinAll lines).within line, ?_, Failure.kind_within line _,
    Failure.message_within line _, Failure.chain_within line _⟩
  rw [withContexts_error, Failure.withinAll_append]
  rfl

/-- Of three lines around a cut chain, all are in the text. -/
example : (Failure.withinAll [⟨.environment, "disk"⟩, ⟨.argument, "row 7"⟩, ⟨.other, "import"⟩]
      (.error (.typeLoading "orders::Order" .none))).message
    = "Infrastructure error: import: Invalid argument: row 7: I/O error: disk: "
      ++ "Unable to load type [orders::Order]" := by
  decide

end UnitBinding
