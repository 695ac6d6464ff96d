import UnitBinding.Logging.Directive

set_option autoImplicit false

/-! # Filters of log events

A filter is a list of directives separated by commas. Of the directives that cover an event the one with
the longest target decides; of several with one target, one with a condition, and of these the last. An event
that no directive covers does not pass. -/

namespace UnitBinding

/-- A list of directives. -/
abbrev LogFilter := List Directive

namespace LogFilter

/-- The filter without directives lets errors pass. -/
def errorsOnly : LogFilter := [{ threshold := some .error }]

/-- The pieces of a text between commas, those that are empty left out. -/
def pieces (text : String) : List (List Char) :=
  (text.splitOn ",").filterMap fun piece => if piece = "" then none else some piece.toList

/-- The filter of a text, if all its directives can be read. -/
def parse (text : String) : Text.Reading LogFilter :=
  ((pieces text).mapM Directive.parse).map fun directives =>
    if directives = [] then errorsOnly else directives

/-- The filter of the name of a severity. -/
def ofLevelName (name : String) : LogFilter := [Directive.ofWord name.toList]

/-- The directive that decides on events with a target. -/
def deciding? (filter : LogFilter) (target : String) : Option Directive :=
  filter.foldl (fun best d =>
    if d.covers target then
      match best with
      | none => some d
      | some b => if d.isAsNarrow b then some d else some b
    else best) none

/-- Whether an event passes. -/
def enabled (filter : LogFilter) (target : String) (level : LogLevel) : Bool :=
  match filter.deciding? target with
  | none => false
  | some d => d.threshold.any fun threshold => level.atLeast threshold

end LogFilter

end UnitBinding
