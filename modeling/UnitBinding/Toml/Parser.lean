import UnitBinding.Toml.Document
import UnitBinding.Toml.Number

set_option autoImplicit false

/-! # Configuration files: reading

Each line is read as an `Expression`, and the expressions make up the document. Values nest: an array
may go over several lines, with comments, and may end in a comma; a table between braces stays on one
line and may not. Brackets nest less than `nestingLimit` deep, and a key has fewer parts than that. -/

namespace UnitBinding.Toml

/-- The bound on the depth of values and on the parts of keys. -/
def nestingLimit : Nat := 80

/-! ## Keys -/

/-- Whether a character can stand in a key without quotes. -/
def isBareChar (c : Char) : Bool := c.isAlphanum || c = '_' || c = '-'

/-- One part of a key at the front, and what follows it. -/
def readKeyPart? (cs : List Char) : Option (String × List Char) :=
  match cs.takeWhile isBareChar with
  | [] => (readLineString? cs).map fun r => (String.ofList r.1, r.2)
  | name => some (String.ofList name, cs.dropWhile isBareChar)

/-- A key of at most so many parts with dots between them, and what follows it. Blanks may stand
    around each part. -/
def readKey? : Nat → List Char → Option (List String × List Char)
  | 0, _ => none
  | parts + 1, cs =>
    match readKeyPart? (skipBlanks cs) with
    | none => none
    | some (name, rest) =>
      match skipBlanks rest with
      | '.' :: more => (readKey? parts more).map fun r => (name :: r.1, r.2)
      | more => some ([name], more)

/-- The parts of a key before the last one, and the last one. -/
def splitKey? : List String → Option (List String × String)
  | [] => none
  | [key] => some ([], key)
  | part :: rest => (splitKey? rest).map fun r => (part :: r.1, r.2)

/-- A key at the front, its last part apart, and what follows it. -/
def readPath? (cs : List Char) : Option ((List String × String) × List Char) :=
  match readKey? (nestingLimit - 1) cs with
  | none => none
  | some (parts, rest) => (splitKey? parts).map fun path => (path, rest)

/-! ## Blank space -/

/-- What follows a comment on its line. -/
def skipComment (cs : List Char) : List Char := cs.dropWhile fun c => !isControl c

/-- The rest of a text from the next line on, if nothing but blanks and a comment is left on this
    line. -/
def endLine? (cs : List Char) : Option (List Char) :=
  let rest := match skipBlanks cs with
    | '#' :: comment => skipComment comment
    | rest => rest
  if rest = [] then some [] else newline? rest

/-- The rest of a text behind blanks, comments and line ends. -/
def skipLayout? : Nat → List Char → Option (List Char)
  | 0, _ => none
  | fuel + 1, cs =>
    match skipBlanks cs with
    | [] => some []
    | '#' :: comment => (newline? (skipComment comment)).bind (skipLayout? fuel)
    | '\n' :: rest => skipLayout? fuel rest
    | '\r' :: rest => (newline? ('\r' :: rest)).bind (skipLayout? fuel)
    | rest => some rest

/-! ## Values -/

mutual

/-- A value at the front, and what follows it. The first number bounds the steps, the second the
    brackets that may still be opened. -/
def readValue? : Nat → Nat → List Char → Option (Value × List Char)
  | 0, _, _ => none
  | fuel + 1, depth, cs =>
    match cs with
    | '[' :: rest =>
      match depth with
      | 0 => none
      | depth + 1 => (readElements? fuel depth rest).map fun r => (.arr r.1, r.2)
    | '\x7b' :: rest =>
      match depth with
      | 0 => none
      | depth + 1 =>
        match skipBlanks rest with
        | '\x7d' :: rest => some (.table [], rest)
        | rest =>
          match readPairs? fuel depth rest with
          | none => none
          | some (pairs, rest) => (inlineTable? pairs).map fun table => (table, rest)
    | '"' :: _ => (readString? cs).map fun r => (.str (String.ofList r.1), r.2)
    | '\'' :: _ => (readString? cs).map fun r => (.str (String.ofList r.1), r.2)
    | _ => readWord? cs

/-- The elements of an array up to its closing bracket. -/
def readElements? : Nat → Nat → List Char → Option (List Value × List Char)
  | 0, _, _ => none
  | fuel + 1, depth, cs =>
    match skipLayout? (fuel + 1) cs with
    | none => none
    | some (']' :: rest) => some ([], rest)
    | some rest =>
      match readValue? fuel depth rest with
      | none => none
      | some (value, rest) =>
        match skipLayout? (fuel + 1) rest with
        | some (',' :: rest) =>
          (readElements? fuel depth rest).map fun r => (value :: r.1, r.2)
        | some (']' :: rest) => some ([value], rest)
        | _ => none

/-- The members of a table between braces, up to the closing one. -/
def readPairs? : Nat → Nat → List Char →
    Option (List (List String × String × Value) × List Char)
  | 0, _, _ => none
  | fuel + 1, depth, cs =>
    match readPath? cs with
    | some ((path, key), '=' :: rest) =>
      match readValue? fuel depth (skipBlanks rest) with
      | none => none
      | some (value, rest) =>
        match skipBlanks rest with
        | ',' :: rest =>
          (readPairs? fuel depth rest).map fun r => ((path, key, value) :: r.1, r.2)
        | '\x7d' :: rest => some ([(path, key, value)], rest)
        | _ => none
    | _ => none

end

/-! ## Lines and documents -/

/-- An expression at the front of a line, and what follows it. -/
def readExpression? (fuel : Nat) (cs : List Char) : Option (Expression × List Char) :=
  match cs with
  | '[' :: '[' :: rest =>
    match readPath? rest with
    | some ((path, key), ']' :: ']' :: rest) => some (.arrayHeader path key, rest)
    | _ => none
  | '[' :: rest =>
    match readPath? rest with
    | some ((path, key), ']' :: rest) => some (.header path key, rest)
    | _ => none
  | _ =>
    match readPath? cs with
    | some ((path, key), '=' :: rest) =>
      (readValue? fuel (nestingLimit - 1) (skipBlanks rest)).map fun r =>
        (.assign path key r.1, r.2)
    | _ => none

/-- The expressions of a text, line by line. -/
def readExpressions? : Nat → List Char → Option (List Expression)
  | 0, _ => none
  | fuel + 1, cs =>
    match skipBlanks cs with
    | [] => some []
    | cs =>
      match endLine? cs with
      | some rest => readExpressions? fuel rest
      | none =>
        match readExpression? (fuel + 1) cs with
        | none => none
        | some (expression, rest) =>
          match endLine? rest with
          | none => none
          | some rest => (readExpressions? fuel rest).map (expression :: ·)

/-- The members of the root table of a file. Every step takes a character, so the length of the text
    bounds the steps. A byte-order mark in front is no part of the text. -/
def parse? (text : String) : Option (List (String × Value)) :=
  let cs := match text.toList with
    | '\ufeff' :: rest => rest
    | cs => cs
  (readExpressions? (cs.length + 1) cs).bind ofExpressions?

end UnitBinding.Toml
