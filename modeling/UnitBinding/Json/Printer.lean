import UnitBinding.Decimal.Layout
import UnitBinding.Json.Basic
import UnitBinding.Text.Quoted

set_option autoImplicit false

/-! # Data values as text

The compact form on one line. Strings escape the quote, the backslash and the control characters;
doubles are written in the `exchange` layout, so that no double reads back as an integer. -/

namespace UnitBinding.Json

/-- The way one character is written inside a string. -/
def escapeChar (c : Char) : List Char :=
  if c = '"' then ['\\', '"']
  else if c = '\\' then ['\\', '\\']
  else if c.toNat < 0x20 then
    ['\\', 'u', '0', '0', Text.hexDigit (c.toNat / 16), Text.hexDigit (c.toNat % 16)]
  else [c]

/-- A string between quotes. -/
def renderString (s : String) : String :=
  String.ofList ('"' :: s.toList.flatMap escapeChar ++ ['"'])

mutual

/-- A value on one line. -/
def render : Json → String
  | .null => "null"
  | .bool true => "true"
  | .bool false => "false"
  | .int i => toString i
  | .float x => Decimal.Layout.exchange.render x
  | .str s => renderString s
  | .arr elements => "[" ++ ",".intercalate (renderElements elements) ++ "]"
  | .obj members => "\x7b" ++ ",".intercalate (renderMembers members) ++ "\x7d"

/-- The elements of an array, each on its own. -/
def renderElements : List Json → List String
  | [] => []
  | value :: rest => render value :: renderElements rest

/-- The members of an object, each with its name. -/
def renderMembers : List (String × Json) → List String
  | [] => []
  | (name, value) :: rest => (renderString name ++ ":" ++ render value) :: renderMembers rest

end

end UnitBinding.Json
