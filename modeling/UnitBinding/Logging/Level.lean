import UnitBinding.Error

set_option autoImplicit false

/-! # Severities

The five severities of log events, from the least to the most severe, and the names under which a
configuration may ask for one of them. -/

namespace UnitBinding

/-- How severe an event is. -/
inductive LogLevel where
  | trace
  | debug
  | info
  | warn
  | error
  deriving DecidableEq, Inhabited

namespace LogLevel

/-- The name that log lines show. -/
def name : LogLevel → String
  | .trace => "TRACE"
  | .debug => "DEBUG"
  | .info => "INFO"
  | .warn => "WARN"
  | .error => "ERROR"

/-- The place in the order of severities. -/
def rank : LogLevel → Nat
  | .trace => 0
  | .debug => 1
  | .info => 2
  | .warn => 3
  | .error => 4

/-- Whether an event of this severity passes a threshold. -/
def atLeast (level threshold : LogLevel) : Bool := threshold.rank ≤ level.rank

/-- A text with its ASCII letters in lower case. No other character has a lower case that occurs in
    the name of a severity. -/
def lowered (s : String) : String := String.ofList (s.toList.map Char.toLower)

/-- The severity with a name, whatever the case of its letters. One severity has two names. -/
def ofName? (s : String) : Option LogLevel :=
  match lowered s with
  | "trace" => some .trace
  | "debug" => some .debug
  | "info" => some .info
  | "warn" => some .warn
  | "warning" => some .warn
  | "error" => some .error
  | _ => none

/-- The error for a name that stands for no severity. -/
def unknown (s : String) : Error :=
  .configuration
    ("Invalid log level: " ++ s ++ ". Use trace, debug, info, warn, or error") .none

/-- The severity with a name. -/
def parse (s : String) : Except Error LogLevel :=
  match ofName? s with
  | some level => .ok level
  | none => .error (unknown s)

end LogLevel

end UnitBinding
