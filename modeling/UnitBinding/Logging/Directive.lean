import UnitBinding.Decimal.Layout
import UnitBinding.Logging.Level
import UnitBinding.Text.Cut
import UnitBinding.Text.Pattern

set_option autoImplicit false

/-! # Directives for log events

A directive sets a threshold for events: for all of them, for those whose target starts with a given text,
for those with a field of a given name, or for those within a scope. It is written
`target[scope{field=value}]=level`, where every part may be missing; a level alone speaks of all
events. A scope, and a value of a field, are looked for around an event and never in it.

`Directive.parse` reads one. The form is read off the text without the blanks around it, whereas the parts
are cut out of the whole text at the positions that they have in the form. So blanks in front of a directive
shift all its parts, and a wide blank may be cut in two. -/

namespace UnitBinding

/-- From which severity on events pass; none for no event at all. -/
abbrev Threshold := Option LogLevel

namespace Threshold

/-- The threshold with a number. -/
def ofNumber? : Nat → Option Threshold
  | 0 => some none
  | 1 => some (some .error)
  | 2 => some (some .warn)
  | 3 => some (some .info)
  | 4 => some (some .debug)
  | 5 => some (some .trace)
  | _ => none

/-- The threshold with a name, whatever the case of its letters. -/
def ofName? (s : String) : Option Threshold :=
  match LogLevel.lowered s with
  | "off" => some none
  | "error" => some (some .error)
  | "warn" => some (some .warn)
  | "info" => some (some .info)
  | "debug" => some (some .debug)
  | "trace" => some (some .trace)
  | _ => none

/-- The number of a text: digits, perhaps behind a plus sign. -/
def number? (cs : List Char) : Option Nat :=
  let digits := match cs with
    | '+' :: rest => rest
    | cs => cs
  if digits ≠ [] && digits.all Char.isDigit then some (Decimal.digitsValue digits) else none

/-- The threshold of a text. -/
def parse? (cs : List Char) : Option Threshold :=
  match number? cs with
  | some n => ofNumber? n
  | none => ofName? (String.ofList cs)

/-- The threshold at which everything passes. -/
def everything : Threshold := some .trace

end Threshold

/-! ## Conditions on fields -/

/-- A field that something must have, perhaps with a value. -/
structure FieldCondition where
  name : String
  /-- The value, if one is asked for, as it is written. -/
  value : Option String := none
  deriving DecidableEq, Inhabited

namespace FieldCondition

/-- Whether a text is a number, with infinity and the indefinite number among them. -/
def isNumber (cs : List Char) : Bool :=
  let unsigned := match cs with
    | '+' :: rest => rest
    | '-' :: rest => rest
    | cs => cs
  (Decimal.read? cs).isSome
    || ["inf", "infinity", "nan"].contains (LogLevel.lowered (String.ofList unsigned))

/-- Whether a text can be asked for as a value: a number, or else a pattern for text. -/
def isValue (cs : List Char) : Bool := isNumber cs || Text.Pattern.isWellFormed cs

/-- The condition of a text. What stands behind a second equals sign does not count. -/
def parse (cs : List Char) : Text.Reading FieldCondition :=
  let name := String.ofList (cs.takeWhile (· ≠ '='))
  match cs.dropWhile (· ≠ '=') with
  | [] => .ok { name }
  | _ :: rest =>
    let value := rest.takeWhile (· ≠ '=')
    if isValue value then .ok { name, value := some (String.ofList value) }
    else .error .malformed

end FieldCondition

/-! ## Directives -/

/-- One directive of a filter. -/
structure Directive where
  /-- The start of the targets that it speaks of; all targets without one. -/
  target : Option String := none
  /-- The name of the scope within which it speaks of events. -/
  scope : Option String := none
  condition : Option FieldCondition := none
  threshold : Threshold := Threshold.everything
  deriving DecidableEq, Inhabited

namespace Directive

/-! ### Reading -/

/-- A directive of one word: a threshold for all targets, or else a target of which everything
    passes. -/
def ofWord (cs : List Char) : Directive :=
  match Threshold.parse? cs with
  | some threshold => { threshold }
  | none => { target := some (String.ofList cs) }

/-- Whether a directive may start with a character. -/
def isStart (c : Char) : Bool := c = '-' || c = ':' || c = '_' || Text.isAlphanumeric c

/-- Complete a directive by the threshold that stands in a text from a position on. Without a text
    everything passes. -/
def withLevel (d : Directive) (whole : List Char) (position : Nat) : Text.Reading Directive := do
  let level ← Text.sliceFrom whole position
  if level = [] then return d
  match Threshold.parse? level with
  | some threshold => return { d with threshold }
  | none => .error .malformed

/-- Complete a directive behind the bracket that closes its scope. -/
def behindScope (d : Directive) (whole : List Char) (position : Nat) :
    List Char → Text.Reading Directive
  | [] => .ok d
  | '=' :: _ => d.withLevel whole (position + 1)
  | _ => .error .malformed

/-- Complete a directive within the braces of its scope, where the one condition stands. -/
def withCondition (d : Directive) (whole : List Char) (position : Nat) (form : List Char) :
    Text.Reading Directive :=
  let stop := position + Text.byteLength (form.takeWhile (· ≠ '\x7d'))
  match form.dropWhile (· ≠ '\x7d') with
  | [] => .error .malformed
  | _ :: form => do
    let field ← Text.slice whole position stop
    if field = [] then .error .malformed
    let condition ← FieldCondition.parse field
    match form with
    | ']' :: form => behindScope { d with condition := some condition } whole (stop + 2) form
    | _ => .error .malformed

/-- Complete a directive behind the bracket that opens its scope. A scope without a name counts only
    if there is no condition. -/
def withScope (d : Directive) (whole : List Char) (position : Nat) (form : List Char) :
    Text.Reading Directive :=
  let stop := position + Text.byteLength (form.takeWhile fun c => c ≠ ']' && c ≠ '\x7b')
  match form.dropWhile fun c => c ≠ ']' && c ≠ '\x7b' with
  | [] => .error .malformed
  | mark :: form => do
    let name ← Text.slice whole position stop
    let scope := some (String.ofList name)
    if mark = ']' then behindScope { d with scope } whole (stop + 1) form
    else withCondition { d with scope := if name = [] then none else scope } whole (stop + 1) form

/-- A directive. -/
def parse (whole : List Char) : Text.Reading Directive :=
  match Text.trim whole with
  | [] => .error .malformed
  | '[' :: form => withScope {} whole 1 form
  | c :: form =>
    if !isStart c then .error .malformed
    else
      let stop := Text.byteLength ((c :: form).takeWhile fun c => c ≠ '=' && c ≠ '[')
      match (c :: form).dropWhile fun c => c ≠ '=' && c ≠ '[' with
      | [] => .ok (ofWord whole)
      | mark :: form => do
        let target ← Text.slice whole 0 stop
        let d : Directive := { target := some (String.ofList target) }
        if mark = '=' then d.withLevel whole (stop + 1) else d.withScope whole (stop + 1) form

/-! ### Events -/

/-- The names of the fields that every event has. -/
def eventFields : List String := ["message"]

/-- Whether a directive speaks of events as such, wherever they occur. -/
def isStatic (d : Directive) : Bool :=
  d.scope.isNone && d.condition.all fun condition => condition.value.isNone

/-- Whether a directive speaks of events with a target, wherever they occur. -/
def covers (d : Directive) (target : String) : Bool :=
  d.isStatic && d.target.all (fun start => start.toList.isPrefixOf target.toList)
    && d.condition.all fun condition => eventFields.contains condition.name

/-- How narrow the choice of targets is. -/
def targetWidth (d : Directive) : Nat :=
  match d.target with
  | none => 0
  | some start => start.utf8ByteSize + 1

/-- Whether a directive is at least as narrow as another one: in its targets, and if that is a draw in
    its conditions. -/
def isAsNarrow (d other : Directive) : Bool :=
  other.targetWidth < d.targetWidth
    || (other.targetWidth = d.targetWidth && (other.condition.isNone || d.condition.isSome))

end Directive

end UnitBinding
