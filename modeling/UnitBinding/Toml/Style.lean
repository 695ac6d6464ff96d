import UnitBinding.Text.Quoted
import UnitBinding.Toml.Basic

set_option autoImplicit false

/-! # Configuration files: writing text

A text is written in the plainest of the four quoted forms that can hold it: between double quotes if it
needs no escape there, else between single quotes, else in the tripled forms, and with escapes only if
nothing else is left. Texts of several lines always get a tripled form, opened by a line end. -/

namespace UnitBinding.Toml

/-! ## What a text contains -/

/-- The length of the longest run of a character. -/
def longestRun (c : Char) (cs : List Char) : Nat :=
  (cs.foldl (fun (run : Nat × Nat) d => if d = c then (run.1 + 1, max run.2 (run.1 + 1))
    else (0, run.2)) (0, 0)).2

/-- Whether a character has to be escaped wherever it stands: a control character other than the tab and
    the line feed. -/
def isUnwritable (c : Char) : Bool := isControl c && c ≠ '\n'

/-! ## The forms -/

/-- A written form of a text. -/
inductive Style where
  | basic
  | literal
  | tripledBasic
  | tripledLiteral
  deriving DecidableEq, Inhabited

/-- Whether a text has no line end, no backslash and no double quote and needs no escape. -/
def fitsBasic (cs : List Char) : Bool :=
  !cs.any isUnwritable && !cs.contains '\\' && !cs.contains '"' && !cs.contains '\n'

/-- Whether a text can stand between single quotes on one line. -/
def fitsLiteral (cs : List Char) : Bool :=
  !cs.any isUnwritable && !cs.contains '\'' && !cs.contains '\n'

/-- Whether a text can stand between tripled double quotes without an escape. -/
def fitsTripledBasic (cs : List Char) : Bool :=
  !cs.any isUnwritable && !cs.contains '\\' && longestRun '"' cs ≤ 2

/-- Whether a text can stand between tripled single quotes. -/
def fitsTripledLiteral (cs : List Char) : Bool :=
  !cs.any isUnwritable && longestRun '\'' cs ≤ 2

/-- The form that a text is written in. -/
def styleOf (cs : List Char) : Style :=
  if fitsBasic cs then .basic
  else if fitsLiteral cs then .literal
  else if fitsTripledBasic cs then .tripledBasic
  else if fitsTripledLiteral cs then .tripledLiteral
  else if cs.contains '\n' then .tripledBasic
  else .basic

/-! ## Escapes -/

/-- A control character as a numeric escape of four digits. -/
def numericEscape (c : Char) : List Char :=
  ['\\', 'u', '0', '0', Text.upperHexDigit (c.toNat / 16), Text.upperHexDigit (c.toNat % 16)]

/-- A character other than the double quote, escaped if it has to be. -/
def escape (tripled : Bool) (c : Char) : List Char :=
  if c = '\\' then ['\\', '\\']
  else if c = '\x08' then ['\\', 'b']
  else if c = '\t' then ['\\', 't']
  else if c = '\x0c' then ['\\', 'f']
  else if c = '\r' then ['\\', 'r']
  else if c = '\n' then if tripled then ['\n'] else ['\\', 'n']
  else if isUnwritable c then numericEscape c
  else [c]

/-- A text with escapes. Between tripled quotes two double quotes in a row stand as they are; the
    number counts those just written. -/
def escapeAll (tripled : Bool) : Nat → List Char → List Char
  | _, [] => []
  | quotes, c :: rest =>
    if c = '"' then
      if tripled && quotes < 2 then '"' :: escapeAll tripled (quotes + 1) rest
      else '\\' :: '"' :: escapeAll tripled 0 rest
    else escape tripled c ++ escapeAll tripled 0 rest

/-! ## Writing -/

/-- The line end behind opening tripled quotes, for texts of several lines. -/
def openingLine (cs : List Char) : List Char := if cs.contains '\n' then ['\n'] else []

/-- A text between quotes. -/
def renderText (cs : List Char) : List Char :=
  match styleOf cs with
  | .basic => '"' :: escapeAll false 0 cs ++ ['"']
  | .literal => '\'' :: cs ++ ['\'']
  | .tripledBasic =>
    ['"', '"', '"'] ++ openingLine cs ++ escapeAll true 0 cs ++ ['"', '"', '"']
  | .tripledLiteral => ['\'', '\'', '\''] ++ openingLine cs ++ cs ++ ['\'', '\'', '\'']

end UnitBinding.Toml
