import UnitBinding.Text.Blank
import UnitBinding.Text.Hex
import UnitBinding.Text.Word

set_option autoImplicit false

/-! # Patterns

Whether a text is a well-formed regular expression: groups with names or switches, alternatives, the
repetitions `?`, `*` and `+`, classes in brackets with ranges and set operations, and escapes.

Three kinds of patterns are refused although they have the form. What needs tables of characters
(families such as all digits, and matching without regard to case) is known for bytes only; marks at
the ends of words are known for bytes only as well; and nothing may match a part of a character.
Repetitions that are counted in braces are refused too.

A pattern is read in steps (`step`), each of which takes at least one character; `isWellFormed` runs
them to the end. -/

namespace UnitBinding.Text.Pattern

/-! ## Switches -/

/-- The switches that a pattern may set on its way. -/
structure Switches where
  /-- Letters match without regard to case. -/
  ignoreCase : Bool := false
  /-- Blanks and comments may stand between the parts. -/
  spaced : Bool := false
  /-- Characters are matched, and not bytes. -/
  unicode : Bool := true
  deriving DecidableEq, Inhabited

/-- The letters of all switches, and the mark that turns off those behind it. -/
def switchLetters : List Char := ['i', 'm', 's', 'U', 'u', 'R', 'x', '-']

/-- Whether letters may set switches: known ones, none of them twice, and some behind the mark. -/
def validSwitches (letters : List Char) : Bool :=
  letters.all (switchLetters.contains ·) && letters.Nodup && letters.getLast? ≠ some '-'

/-- Set one switch. The others do not decide what is well formed. -/
def Switches.set (s : Switches) (value : Bool) (letter : Char) : Switches :=
  if letter = 'i' then { s with ignoreCase := value }
  else if letter = 'x' then { s with spaced := value }
  else if letter = 'u' then { s with unicode := value }
  else s

/-- Set the switches of some letters: on before the mark, and off behind it. -/
def Switches.setAll (s : Switches) (letters : List Char) : Switches :=
  let on := (letters.takeWhile (· ≠ '-')).foldl (Switches.set · true) s
  (letters.dropWhile (· ≠ '-')).foldl (Switches.set · false) on

/-! ## Blanks and comments -/

/-- A text without the blanks and comments at its front, or without the rest of a comment and what
    follows that. -/
def skipFrom : Bool → List Char → List Char
  | _, [] => []
  | true, c :: rest => skipFrom (c ≠ '\n') rest
  | false, c :: rest =>
    if isBlank c then skipFrom false rest
    else if c = '#' then skipFrom true rest
    else c :: rest

/-- The next part of a pattern. -/
def Switches.skip (s : Switches) (cs : List Char) : List Char :=
  if s.spaced then skipFrom false cs else cs

/-! ## Escapes -/

/-- What an escape stands for. -/
inductive Item where
  | literal (c : Char)
  /-- A set of characters with a name. -/
  | family
  /-- A condition on the place. -/
  | anchor
  deriving DecidableEq

/-- The value of a number of hexadecimal digits. -/
def hexCode? (s : Switches) : Nat → Nat → List Char → Option (Nat × List Char)
  | 0, code, cs => some (code, cs)
  | left + 1, code, cs =>
    match s.skip cs with
    | [] => none
    | c :: rest => (hexValue? c).bind fun digit => hexCode? s left (16 * code + digit) rest

/-- A character by its number. Two digits are one byte where bytes are matched. -/
def numbered? (s : Switches) (digits : Nat) (cs : List Char) : Option (Item × List Char) :=
  match hexCode? s digits 0 cs with
  | none => none
  | some (code, rest) =>
    if !Nat.isValidChar code then none
    else if !s.unicode && digits = 2 && 0x80 ≤ code then none
    else some (.literal (Char.ofNat code), rest)

/-- The control character that a letter stands for. -/
def control? : Char → Option Char
  | 'a' => some '\x07'
  | 't' => some '\t'
  | 'n' => some '\n'
  | 'v' => some '\x0b'
  | 'f' => some '\x0c'
  | 'r' => some '\r'
  | _ => none

/-- An escape, from what follows the backslash. -/
def readEscape? (s : Switches) : List Char → Option (Item × List Char)
  | [] => none
  | c :: rest =>
    if c = 'x' then numbered? s 2 rest
    else if c = 'u' then numbered? s 4 rest
    else if c = 'U' then numbered? s 8 rest
    else if ['d', 's', 'w'].contains c then if s.unicode then none else some (.family, rest)
    else if ['b', 'B', '<', '>'].contains c then if s.unicode then none else some (.anchor, rest)
    else if ['A', 'z'].contains c then some (.anchor, rest)
    else if c.toNat < 0x80 && !c.isAlphanum then some (.literal c, rest)
    else (control? c).map fun control => (.literal control, rest)

/-- Whether a pattern can hold a character by itself. -/
def Switches.allowsLiteral (s : Switches) : Bool := !(s.unicode && s.ignoreCase)

/-! ## Groups -/

/-- Whether a character can stand in the name of a group, or at its front. -/
def isNameChar (atFront : Bool) (c : Char) : Bool :=
  if atFront then c = '_' || isAlphabetic c
  else c = '_' || c = '.' || c = '[' || c = ']' || isAlphanumeric c

/-- The name of a group up to its closing bracket, and what follows that. -/
def groupName? (cs : List Char) : Option (List Char × List Char) :=
  match cs.takeWhile (· ≠ '>'), cs.dropWhile (· ≠ '>') with
  | c :: name, _ :: rest =>
    if isNameChar true c && name.all (isNameChar false) then some (c :: name, rest) else none
  | _, _ => none

/-! ## States -/

/-- Where in a class a pattern is. -/
inductive ClassPlace where
  /-- Right behind the opening bracket. -/
  | opened
  /-- Before the first item. -/
  | first
  /-- Behind hyphens alone. -/
  | hyphens
  | within
  deriving DecidableEq

/-- What is open in a pattern that was read so far. -/
structure State where
  switches : Switches := {}
  /-- The switches outside of each open group, the innermost first. -/
  groups : List Switches := []
  /-- The names of groups. -/
  names : List (List Char) := []
  /-- Whether a repetition may follow. -/
  repeatable : Bool := false
  /-- The number of open classes, one within the other. -/
  classes : Nat := 0
  place : ClassPlace := .opened

namespace State

/-- Behind an item that a repetition may follow. -/
def item (s : State) : State := { s with repeatable := true }

/-- Within a new group. -/
def openGroup (s : State) : State :=
  { s with groups := s.switches :: s.groups, repeatable := false }

/-- Within a new class. -/
def openClass (s : State) : State :=
  { s with classes := s.classes + 1, place := .opened }

/-- Behind the closing bracket of a class. -/
def closeClass (s : State) : State :=
  { s with classes := s.classes - 1, place := .within, repeatable := true }

end State

/-! ## Steps within a class -/

/-- The names that a class in brackets and colons can have. -/
def classNames : List String :=
  ["alnum", "alpha", "ascii", "blank", "cntrl", "digit", "graph", "lower", "print", "punct",
    "space", "upper", "word", "xdigit"]

/-- A named class, from what follows its opening bracket: whether it is negated, and what follows. -/
def namedClass? : List Char → Option (Bool × List Char)
  | ':' :: cs =>
    let (negated, cs) := match cs with
      | '^' :: rest => (true, rest)
      | cs => (false, cs)
    match cs.dropWhile (· ≠ ':') with
    | ':' :: ']' :: rest =>
      if classNames.contains (String.ofList (cs.takeWhile (· ≠ ':'))) then some (negated, rest)
      else none
    | _ => none
  | _ => none

/-- An item of a class. -/
def classItem? (s : Switches) (c : Char) (rest : List Char) : Option (Item × List Char) :=
  let read := if c = '\\' then readEscape? s rest else some (.literal c, rest)
  read.filter fun r => match r.1 with
    | .literal c => s.unicode || c.toNat < 0x80
    | .family => true
    | .anchor => false

/-- An item of a class or a range of characters, and what follows. A hyphen before the closing bracket
    or before another hyphen makes no range. -/
def classRange? (s : Switches) (c : Char) (rest : List Char) : Option (List Char) :=
  (classItem? s c rest).bind fun (low, rest) =>
    match s.skip rest with
    | '-' :: more =>
      match s.skip more with
      | [] => none
      | d :: rest =>
        if d = ']' || d = '-' then some ('-' :: more)
        else (classItem? s d rest).bind fun (high, rest) =>
          match low, high with
          | .literal a, .literal b => if a ≤ b then some rest else none
          | _, _ => none
    | rest => some rest

/-- Whether two characters are an operation on sets. -/
def isSetOperation (c : Char) (rest : List Char) : Bool :=
  (c = '&' || c = '-' || c = '~') && rest.head? = some c

/-- One step within a class. -/
def classStep (s : State) (c : Char) (rest : List Char) : Option (State × List Char) :=
  let within := { s with place := .within }
  if c = '^' && s.place = .opened then
    if s.switches.unicode then some ({ s with place := .first }, rest) else none
  else if c = '-' && s.place ≠ .within then some ({ s with place := .hyphens }, rest)
  else if c = ']' && (s.place = .opened || s.place = .first) then some (within, rest)
  else if c = ']' then some (s.closeClass, rest)
  else if c = '[' then
    match namedClass? rest with
    | some (negated, rest) => if negated && !s.switches.unicode then none else some (within, rest)
    | none => some (s.openClass, rest)
  else if isSetOperation c rest then some (within, rest.drop 1)
  else (classRange? s.switches c rest).map fun rest => (within, rest)

/-! ## Steps outside of classes -/

/-- Behind an opening parenthesis and a question mark: a group with a name, one with switches of its
    own, or switches for the rest of the group around. -/
def groupStep (s : State) (cs : List Char) : Option (State × List Char) :=
  let name := match cs with
    | 'P' :: '<' :: rest => some rest
    | '<' :: rest => some rest
    | _ => none
  match name with
  | some rest => (groupName? rest).bind fun (name, rest) =>
      if s.names.contains name then none
      else some ({ s.openGroup with names := name :: s.names }, rest)
  | none =>
    let letters := cs.takeWhile fun c => c ≠ ':' && c ≠ ')'
    if !validSwitches letters then none
    else match cs.dropWhile fun c => c ≠ ':' && c ≠ ')' with
      | ':' :: rest =>
        some ({ s.openGroup with switches := s.switches.setAll letters }, rest)
      | ')' :: rest =>
        if letters = [] then none
        else some ({ s with switches := s.switches.setAll letters, repeatable := false }, rest)
      | _ => none

/-- One step outside of classes. -/
def outerStep (s : State) (c : Char) (rest : List Char) : Option (State × List Char) :=
  if c = '(' then
    match s.switches.skip rest with
    | '?' :: rest => groupStep s rest
    | rest => some (s.openGroup, rest)
  else if c = ')' then
    match s.groups with
    | [] => none
    | outer :: groups => some ({ s with switches := outer, groups, repeatable := true }, rest)
  else if c = '|' then some ({ s with repeatable := false }, rest)
  else if c = '[' then if s.switches.allowsLiteral then some (s.openClass, rest) else none
  else if c = '?' || c = '*' || c = '+' then
    if !s.repeatable then none
    else match rest with
      | '?' :: rest => some (s, rest)
      | rest => some (s, rest)
  else if c = '\x7b' then none
  else if c = '.' then if s.switches.unicode then some (s.item, rest) else none
  else if c = '^' || c = '$' then some (s.item, rest)
  else
    let read := if c = '\\' then readEscape? s.switches rest else some (.literal c, rest)
    read.bind fun (item, rest) => match item with
      | .literal _ => if s.switches.allowsLiteral then some (s.item, rest) else none
      | _ => some (s.item, rest)

/-! ## Whole patterns -/

/-- One step. -/
def step (s : State) (c : Char) (rest : List Char) : Option (State × List Char) :=
  if s.classes = 0 then outerStep s c rest else classStep s c rest

/-- Steps up to the end, where nothing may be open. -/
def run : Nat → State → List Char → Bool
  | 0, _, _ => false
  | fuel + 1, s, cs =>
    match s.switches.skip cs with
    | [] => s.groups = [] && s.classes = 0
    | c :: rest =>
      match step s c rest with
      | none => false
      | some (s, rest) => run fuel s rest

/-- Whether a text is a pattern. Every step takes a character, so the length of the text bounds them. -/
def isWellFormed (cs : List Char) : Bool := run (cs.length + 1) {} cs

end UnitBinding.Text.Pattern
