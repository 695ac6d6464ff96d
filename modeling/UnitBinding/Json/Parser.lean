import UnitBinding.Decimal.Layout
import UnitBinding.Json.Basic
import UnitBinding.Text.Hex

set_option autoImplicit false

/-! # Reading data values

The standard text form. A number without point and exponent that fits sixty-four bits, signed or
unsigned, is an integer; every other number is a double. -/

namespace UnitBinding.Json

/-- Blanks between tokens. -/
def isBlank (c : Char) : Bool :=
  c = ' ' || c = '\n' || c = '\r' || c = '\t'

/-- The rest of a text behind its leading blanks. -/
def skipBlanks (cs : List Char) : List Char := cs.dropWhile isBlank

/-- The value of four hexadecimal digits. -/
def hexQuad? (a b c d : Char) : Option Nat := do
  let a ← Text.hexValue? a
  let b ← Text.hexValue? b
  let c ← Text.hexValue? c
  let d ← Text.hexValue? d
  return ((a * 16 + b) * 16 + c) * 16 + d

/-- The character behind a one-letter escape. A slash may be escaped as well. -/
def shortEscape? (c : Char) : Option Char := if c = '/' then some '/' else Text.shortEscape? c

/-- A string behind its opening quote: its text and what follows the closing quote. Two halves of
    a surrogate pair make one character; half a pair is refused. -/
def parseString? (done : List Char) : List Char → Option (String × List Char)
  | [] => none
  | '"' :: rest => some (String.ofList done.reverse, rest)
  | '\\' :: 'u' :: a :: b :: c :: d :: rest =>
    match hexQuad? a b c d with
    | none => none
    | some high =>
      if high < 0xd800 ∨ 0xe000 ≤ high then parseString? (Char.ofNat high :: done) rest
      else match rest with
        | '\\' :: 'u' :: a' :: b' :: c' :: d' :: rest' =>
          match hexQuad? a' b' c' d' with
          | none => none
          | some low =>
            if high < 0xdc00 ∧ 0xdc00 ≤ low ∧ low < 0xe000 then
              parseString?
                (Char.ofNat (0x10000 + (high - 0xd800) * 0x400 + (low - 0xdc00)) :: done) rest'
            else none
        | _ => none
  | '\\' :: c :: rest =>
    match shortEscape? c with
    | none => none
    | some e => parseString? (e :: done) rest
  | c :: rest => if c.toNat < 0x20 then none else parseString? (c :: done) rest

/-- Whether a character can stand inside a number. -/
def isNumberChar (c : Char) : Bool :=
  c.isDigit || c = '-' || c = '+' || c = '.' || c = 'e' || c = 'E'

/-- The integers that are kept exact. -/
def fitsWord (i : Int) : Bool :=
  -(Int.pow 2 63) ≤ i && i < Int.pow 2 64

/-- A number from its characters. -/
def number? (cs : List Char) : Option Json :=
  let (negative, digits) := match cs with
    | '-' :: rest => (true, rest)
    | _ => (false, cs)
  let wellFormed := match digits with
    | '0' :: d :: _ => !d.isDigit
    | d :: _ => d.isDigit
    | [] => false
  if !wellFormed then none
  else if digits.all Char.isDigit then
    let n := Decimal.digitsValue digits
    let i : Int := if negative then -n else n
    if fitsWord i && !(negative && n = 0) then some (.int i)
    else some (.float (Binary64.ofDecimal negative n 0))
  else (Decimal.readUnsigned? negative digits).map .float

mutual

/-- A value at the front of a text, and what follows it. -/
def parseValue? : Nat → List Char → Option (Json × List Char)
  | 0, _ => none
  | fuel + 1, cs =>
    match skipBlanks cs with
    | 'n' :: 'u' :: 'l' :: 'l' :: rest => some (.null, rest)
    | 't' :: 'r' :: 'u' :: 'e' :: rest => some (.bool true, rest)
    | 'f' :: 'a' :: 'l' :: 's' :: 'e' :: rest => some (.bool false, rest)
    | '"' :: rest => (parseString? [] rest).map fun (s, rest) => (.str s, rest)
    | '[' :: rest =>
      match skipBlanks rest with
      | ']' :: rest => some (.arr [], rest)
      | rest => (parseElements? fuel [] rest).map fun (xs, rest) => (.arr xs, rest)
    | '\x7b' :: rest =>
      match skipBlanks rest with
      | '\x7d' :: rest => some (.obj [], rest)
      | rest => (parseMembers? fuel [] rest).map fun (ms, rest) => (ofMembers ms, rest)
    | rest =>
      (number? (rest.takeWhile isNumberChar)).map fun value =>
        (value, rest.dropWhile isNumberChar)

/-- The elements of an array up to its closing bracket. -/
def parseElements? : Nat → List Json → List Char → Option (List Json × List Char)
  | 0, _, _ => none
  | fuel + 1, done, cs =>
    match parseValue? fuel cs with
    | none => none
    | some (value, rest) =>
      match skipBlanks rest with
      | ',' :: rest => parseElements? fuel (value :: done) rest
      | ']' :: rest => some ((value :: done).reverse, rest)
      | _ => none

/-- The members of an object up to its closing brace. -/
def parseMembers? : Nat → List (String × Json) → List Char →
    Option (List (String × Json) × List Char)
  | 0, _, _ => none
  | fuel + 1, done, cs =>
    match skipBlanks cs with
    | '"' :: rest =>
      match parseString? [] rest with
      | none => none
      | some (name, rest) =>
        match skipBlanks rest with
        | ':' :: rest =>
          match parseValue? fuel rest with
          | none => none
          | some (value, rest) =>
            match skipBlanks rest with
            | ',' :: rest => parseMembers? fuel ((name, value) :: done) rest
            | '\x7d' :: rest => some (((name, value) :: done).reverse, rest)
            | _ => none
        | _ => none
    | _ => none

end

/-- A whole text as one value. Every step of the reader takes a character, so the length of the text
    bounds the steps. -/
def parse? (s : String) : Option Json :=
  let cs := s.toList
  match parseValue? (2 * cs.length + 1) cs with
  | some (value, rest) => if skipBlanks rest = [] then some value else none
  | none => none

end UnitBinding.Json
