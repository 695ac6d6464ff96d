import UnitBinding.Decimal.Layout
import UnitBinding.Text.Quoted
import UnitBinding.Text.Raw
import UnitBinding.Toml.Basic

set_option autoImplicit false

/-! # Configuration values and where they come from

The sources of a configuration are files and environment variables. Their values are of one type,
`ConfigValue`, and every one of them remembers its `Origin`, so that a fault can name the key and the
source: `ConfigFault.message`. Numbers of files are signed, those of variables signed only if they are
negative. -/

namespace UnitBinding

/-! ## Values -/

/-- A value of a configuration source. -/
inductive ConfigValue where
  | bool (b : Bool)
  | signed (i : Int)
  | unsigned (n : Nat)
  | float (x : Binary64)
  | str (s : String)
  | list (elements : List ConfigValue)
  | table (members : List (String × ConfigValue))
  deriving Inhabited

namespace ConfigValue

/-- What a value is called in messages. -/
def describe : ConfigValue → String
  | .bool b => "bool " ++ toString b
  | .signed i => "signed int `" ++ toString i ++ "`"
  | .unsigned n => "unsigned int `" ++ toString n ++ "`"
  | .float x => "float `" ++ Decimal.Layout.plain.render x ++ "`"
  | .str s => "string " ++ Text.quoted s
  | .list _ => "sequence"
  | .table _ => "map"

mutual

/-- A value of a file. A date is a table without settings. -/
def ofToml : Toml.Value → ConfigValue
  | .bool b => .bool b
  | .int i => .signed i
  | .float x => .float x
  | .str s => .str s
  | .moment => .table []
  | .arr elements => .list (ofTomlElements elements)
  | .table members => .table (ofTomlMembers members)

/-- The elements of an array of a file. -/
def ofTomlElements : List Toml.Value → List ConfigValue
  | [] => []
  | value :: rest => ofToml value :: ofTomlElements rest

/-- The members of a table of a file. -/
def ofTomlMembers : List (String × Toml.Value) → List (String × ConfigValue)
  | [] => []
  | (key, value) :: rest => (key, ofToml value) :: ofTomlMembers rest

end

end ConfigValue

/-! ## Origins and faults -/

/-- Where a value comes from. -/
inductive Origin where
  /-- A file, by what its path is called in messages. -/
  | file (shown : String)
  /-- The environment variables with a prefix. -/
  | environment (namePrefix : String)
  deriving DecidableEq, Inhabited

namespace Origin

/-- A text with its ASCII letters in upper case. -/
def raised (s : String) : String := String.ofList (s.toList.map Char.toUpper)

/-- What a source is called in messages. -/
def describe : Origin → String
  | .file shown => shown ++ " TOML file"
  | .environment namePrefix => "`" ++ raised namePrefix ++ "` environment variable(s)"

/-- The name of a key as its source writes it. -/
def keyName (origin : Origin) (path : List String) : String :=
  match origin with
  | .file _ => ".".intercalate ("default" :: path)
  | .environment _ => raised (".".intercalate path)

end Origin

/-- What is wrong with a value. -/
inductive ConfigProblem where
  /-- The value is of another kind. -/
  | invalidType (found : String) (expected : String)
  /-- The value is of the right kind but not one of those allowed. -/
  | invalidValue (found : String) (expected : String)
  deriving DecidableEq, Inhabited

/-- The wording of a problem. -/
def ConfigProblem.message : ConfigProblem → String
  | .invalidType found expected => "invalid type: found " ++ found ++ ", expected " ++ expected
  | .invalidValue found expected => "invalid value " ++ found ++ ", expected " ++ expected

/-- A problem with the value under a key of a source. -/
structure ConfigFault where
  problem : ConfigProblem
  path : List String
  origin : Origin
  deriving DecidableEq, Inhabited

/-- The wording of a fault. -/
def ConfigFault.message (fault : ConfigFault) : String :=
  fault.problem.message ++ " for key " ++ Text.quoted (fault.origin.keyName fault.path) ++ " in "
    ++ fault.origin.describe

/-! ## Reading settings -/

namespace ConfigValue

/-- The problem of a value of the wrong kind. -/
def mistyped (value : ConfigValue) (expected : String) : ConfigProblem :=
  .invalidType value.describe expected

/-- A truth value. -/
def asBool : ConfigValue → Except ConfigProblem Bool
  | .bool b => .ok b
  | value => .error (value.mistyped "a boolean")

/-- A natural number, called `name` in messages. Every number of a source that is not negative is small
    enough. -/
def asNatural (name : String) : ConfigValue → Except ConfigProblem Nat
  | .unsigned n => .ok n
  | .signed i =>
    if 0 ≤ i then .ok i.toNat else .error (.invalidValue (ConfigValue.signed i).describe name)
  | value => .error (value.mistyped name)

/-- A text. -/
def asText : ConfigValue → Except ConfigProblem String
  | .str s => .ok s
  | value => .error (value.mistyped "a string")

/-- The path of a file. -/
def asPath : ConfigValue → Except ConfigProblem (Option RawText)
  | .str s => .ok (some (.ofText s))
  | value => .error (value.mistyped "path string")

end ConfigValue

end UnitBinding
