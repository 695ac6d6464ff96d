import UnitBinding.Decimal.Binary64

set_option autoImplicit false

/-! # Configuration files: values

What a configuration file in TOML can hold. Dates and times are kept as such, without their fields: no
setting of this library is one. -/

namespace UnitBinding.Toml

/-- A value of a file. -/
inductive Value where
  | bool (b : Bool)
  | int (i : Int)
  | float (x : Binary64)
  | str (s : String)
  /-- A date, a time, or both. -/
  | moment
  | arr (elements : List Value)
  | table (members : List (String × Value))
  deriving Inhabited

/-- A blank within a line. -/
def isBlank (c : Char) : Bool := c = ' ' || c = '\t'

/-- The rest of a line behind its leading blanks. -/
def skipBlanks (cs : List Char) : List Char := cs.dropWhile isBlank

/-- A control character that no text may hold as it is. -/
def isControl (c : Char) : Bool := (c.toNat < 0x20 && c ≠ '\t') || c.toNat = 0x7f

/-- The rest of a text behind a line end, if it starts with one. -/
def newline? : List Char → Option (List Char)
  | '\n' :: rest => some rest
  | '\r' :: '\n' :: rest => some rest
  | _ => none

end UnitBinding.Toml
