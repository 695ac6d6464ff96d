import UnitBinding.Config.Layers
import UnitBinding.Text.Blank
import UnitBinding.Text.Cut
import UnitBinding.Toml.Quoted

set_option autoImplicit false

/-! # Environment variables as a source

A variable under the prefix sets the value under the path that the rest of its name spells: two
underscores or a point separate keys, and the case of letters does not matter. The value is read in a
small notation (`readVariable`): truth values, numbers, quoted text, lists in brackets and tables in
braces; a text that is none of these stands for itself. Later variables lie over earlier ones.

Quoted text with an escape in it keeps only as many bytes before the first escape as there are characters
before it (`readQuoted`). Wide characters are lost by that, and where the cut falls inside of one the
program ends. -/

namespace UnitBinding

namespace Environment

/-! ## Names -/

/-- The mark between the keys in a name. -/
def nameSeparator : String := "__"

/-- The rest of a text behind a start that may differ in the case of its letters. -/
def dropStart? : List Char → List Char → Option (List Char)
  | [], cs => some cs
  | _ :: _, [] => none
  | p :: rest, c :: cs => if p.toLower = c.toLower then dropStart? rest cs else none

/-- A point for every two underscores, from the left. -/
def pointed : List Char → List Char
  | '_' :: '_' :: rest => '.' :: pointed rest
  | c :: rest => c :: pointed rest
  | [] => []

/-- The parts of a text between points. -/
def splitPoints : List Char → List (List Char)
  | [] => [[]]
  | c :: rest =>
    if c = '.' then [] :: splitPoints rest
    else match splitPoints rest with
      | [] => [[c]]
      | part :: parts => (c :: part) :: parts

/-- The keys that the rest of a name spells; none if one of them would be empty. -/
def keysOf? (rest : List Char) : Option (List String) :=
  let parts := splitPoints (Text.trim (pointed rest))
  if parts.any fun part => part = [] then none
  else some (parts.map fun part => String.ofList (part.map Char.toLower))

/-- The keys that a variable sets, if it is under the prefix. -/
def path? (namePrefix : String) (name : String) : Option (List String) :=
  (dropStart? (namePrefix ++ nameSeparator).toList (Text.trim name.toList)).bind keysOf?

/-! ## Values -/

/-- A blank between the parts of a value. -/
def isGap (c : Char) : Bool :=
  c = ' ' || c = '\t' || c = '\n' || c = '\x0c' || c = '\r'

/-- The rest of a text behind its leading blanks. -/
def skipGap (cs : List Char) : List Char := cs.dropWhile isGap

/-- Whether a character can stand in a word. -/
def isWordChar (c : Char) : Bool :=
  !(c = ',' || c = '\x7b' || c = '\x7d' || c = '[' || c = ']')

/-- Whether a character can stand in a key without quotes. -/
def isKeyChar (c : Char) : Bool := c.isAlphanum || c = '_' || c = '-'

/-- The number of a run of digits. -/
def digits? (cs : List Char) : Option Nat :=
  if cs ≠ [] && cs.all Char.isDigit then some (Decimal.digitsValue cs) else none

/-- A natural number of sixty-four bits, with an optional plus sign. -/
def unsigned? (cs : List Char) : Option Nat :=
  let rest := match cs with
    | '+' :: rest => rest
    | cs => cs
  (digits? rest).filter fun n => n < Nat.pow 2 64

/-- A negative number of sixty-four bits. -/
def negative? : List Char → Option Int
  | '-' :: rest => ((digits? rest).filter fun n => n ≤ Nat.pow 2 63).map fun n => -(n : Int)
  | _ => none

/-- The value of a word: a number, or else the word itself. -/
def ofWord (word : List Char) : ConfigValue :=
  let number : Option ConfigValue :=
    ((if word.contains '.' then (Decimal.read? word).map ConfigValue.float else none).or
      ((unsigned? word).map ConfigValue.unsigned)).or
      ((negative? word).map ConfigValue.signed)
  number.getD (.str (String.ofList word))

/-! ### Quoted text -/

/-- Whether a quote ends a text, one behind a backslash apart. -/
def hasEnd : List Char → Bool
  | [] => false
  | '"' :: _ => true
  | '\\' :: _ :: rest => hasEnd rest
  | _ :: rest => hasEnd rest

/-- Whether a character stands for itself within quotes. -/
def isPlain (c : Char) : Bool :=
  !(c = '"' || c = '\\' || c = '\n' || c = '\r' || Toml.isControl c)

/-- A text up to its closing quote, and what follows that. Of the characters before the first escape as
    many bytes are kept as they are in number. -/
def readQuoted (cs : List Char) : Text.Reading (List Char × List Char) :=
  let plain := cs.takeWhile isPlain
  match cs.dropWhile isPlain with
  | '\\' :: rest => do
    if !hasEnd cs then .error .malformed
    let (kept, _) ← Text.split .stop plain.length plain
    let (tail, rest) ← .ofOption (Toml.readEscaped false .escape rest)
    return (kept ++ tail, rest)
  | _ => .ofOption (Toml.readEscaped false .text cs)

/-! ### Whole values -/

/-- A key at the front, and what follows it. -/
def readKey (cs : List Char) : Text.Reading (String × List Char) :=
  match cs with
  | '"' :: rest => (readQuoted rest).map fun r => (String.ofList r.1, r.2)
  | _ =>
    match cs.takeWhile isKeyChar with
    | [] => .error .malformed
    | name => .ok (String.ofList name, cs.dropWhile isKeyChar)

mutual

/-- A value at the front, and what follows it and the blanks behind it. -/
def readValue : Nat → List Char → Text.Reading (ConfigValue × List Char)
  | 0, _ => .error .malformed
  | fuel + 1, cs =>
    match skipGap cs with
    | 't' :: 'r' :: 'u' :: 'e' :: rest => .ok (.bool true, skipGap rest)
    | 'f' :: 'a' :: 'l' :: 's' :: 'e' :: rest => .ok (.bool false, skipGap rest)
    | '\x7b' :: rest =>
      (readPairs fuel rest).map fun r => (.table (Table.ofList r.1).entries, skipGap r.2)
    | '[' :: rest => (readElements fuel rest).map fun r => (.list r.1, skipGap r.2)
    | '"' :: rest => (readQuoted rest).map fun r => (.str (String.ofList r.1), skipGap r.2)
    | '\'' :: rest =>
      match rest with
      | c :: '\'' :: rest => .ok (.str (String.ofList [c]), skipGap rest)
      | _ => .error .malformed
    | rest => .ok (ofWord (Text.trim (rest.takeWhile isWordChar)), rest.dropWhile isWordChar)

/-- The elements of a list up to its closing bracket; a comma may stand before that. -/
def readElements : Nat → List Char → Text.Reading (List ConfigValue × List Char)
  | 0, _ => .error .malformed
  | fuel + 1, cs =>
    match cs with
    | ']' :: rest => .ok ([], rest)
    | _ => do
      let (value, rest) ← readValue fuel cs
      match rest with
      | ',' :: rest => (readElements fuel rest).map fun r => (value :: r.1, r.2)
      | ']' :: rest => return ([value], rest)
      | _ => .error .malformed

/-- The members of a table up to its closing brace; a comma may stand before that. -/
def readPairs : Nat → List Char → Text.Reading (List (String × ConfigValue) × List Char)
  | 0, _ => .error .malformed
  | fuel + 1, cs =>
    match cs with
    | '\x7d' :: rest => .ok ([], rest)
    | _ => do
      let (key, rest) ← readKey (skipGap cs)
      match skipGap rest with
      | '=' :: rest =>
        let (value, rest) ← readValue fuel rest
        match rest with
        | ',' :: rest => (readPairs fuel rest).map fun r => ((key, value) :: r.1, r.2)
        | '\x7d' :: rest => return ([(key, value)], rest)
        | _ => .error .malformed
      | _ => .error .malformed

end

/-- The value of a variable. Every two steps of the reader take a character, so twice the length of the
    text bounds the steps. -/
def readVariable (text : String) : Outcome ConfigValue :=
  match readValue (2 * text.toList.length + 2) text.toList with
  | .ok (value, []) => .ok value
  | .error (.cut fault) => .panic fault.message
  | _ => .ok (.str text)

/-! ## The layer -/

/-- A value under a path of keys, as a tree. -/
def nest (origin : Origin) (value : ConfigValue) : List String → ConfigTree
  | [] => .ofValue origin value
  | key :: rest => .table origin [(key, nest origin value rest)]

end Environment

/-- Environment variables with their values, in the order in which they were first set. -/
abbrev Environment := Table String String

namespace Environment

/-- The origin of the values under a prefix. -/
def origin (namePrefix : String) : Origin := .environment (namePrefix ++ nameSeparator)

/-- The variables under a prefix: the keys that each sets, and its text. -/
def underPrefix (env : Environment) (namePrefix : String) : List (List String × String) :=
  env.entries.filterMap fun entry =>
    (path? namePrefix entry.1).map fun keys => (keys, entry.2)

/-- All variables under the prefix, later ones over earlier ones. -/
def layer (env : Environment) (namePrefix : String) : Outcome ConfigTree := do
  let trees ← (env.underPrefix namePrefix).mapM fun setting =>
    (readVariable setting.2).map fun value => nest (origin namePrefix) value setting.1
  return trees.foldl ConfigTree.overlay (.empty (origin namePrefix))

end Environment

end UnitBinding
