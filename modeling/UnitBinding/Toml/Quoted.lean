import UnitBinding.Text.Hex
import UnitBinding.Toml.Basic

set_option autoImplicit false

/-! # Configuration files: reading quoted text

There are four written forms. Between double quotes a backslash starts an escape; between single quotes
every character stands for itself. Tripled quotes open a text of several lines, whose line ends read as
line feeds, a line end directly behind the opening quotes being no part of it. Behind a backslash at the
end of a line everything blank is skipped, line ends included.

`readEscaped` walks a text one character at a time and carries in its `Mode` what it is in the middle
of. -/

namespace UnitBinding.Toml

/-! ## Escapes -/

/-- The number of digits of a numeric escape. -/
def codeLength? : Char → Option Nat
  | 'u' => some 4
  | 'U' => some 8
  | _ => none

/-- The character with a code, if there is one. -/
def charOfCode? (code : Nat) : Option Char :=
  if Nat.isValidChar code then some (Char.ofNat code) else none

/-! ## Between double quotes -/

/-- What a reader of escaped text is in the middle of. -/
inductive Mode where
  | text
  /-- Right behind a backslash. -/
  | escape
  /-- Within a numeric escape: the digits to come, and the value of those read. -/
  | code (left value : Nat)
  /-- Behind a backslash that ended a line, before the next visible character. -/
  | joining
  deriving DecidableEq

/-- A blank or part of a line end. -/
def isLayout (c : Char) : Bool := isBlank c || c = '\n' || c = '\r'

/-- Whether only blanks are left on the line. -/
def atLineEnd (cs : List Char) : Bool := (newline? (skipBlanks cs)).isSome

/-- Put a character in front of the text that was read. -/
def keep (c : Char) (read : Option (List Char × List Char)) : Option (List Char × List Char) :=
  read.map fun r => (c :: r.1, r.2)

/-- Behind three quotes: up to two more belong to the text. -/
def closeTripled (quote : Char) : List Char → List Char × List Char
  | a :: b :: rest =>
    if a = quote then
      if b = quote then ([quote, quote], rest) else ([quote], b :: rest)
    else ([], a :: b :: rest)
  | [a] => if a = quote then ([quote], []) else ([], [a])
  | [] => ([], [])

/-- Whether a text starts with two quotes. -/
def startsTwice (quote : Char) : List Char → Bool
  | a :: b :: _ => a = quote && b = quote
  | _ => false

/-- An escaped text up to its closing quotes, and what follows them. -/
def readEscaped (tripled : Bool) : Mode → List Char → Option (List Char × List Char)
  | _, [] => none
  | mode, c :: rest =>
    match if mode = .joining && !isLayout c then .text else mode with
    | .text =>
      if c = '"' then
        if !tripled then some ([], rest)
        else if startsTwice '"' rest then some (closeTripled '"' (rest.drop 2))
        else keep '"' (readEscaped tripled .text rest)
      else if c = '\\' then readEscaped tripled .escape rest
      else if c = '\n' then
        if tripled then keep '\n' (readEscaped tripled .text rest) else none
      else if c = '\r' then
        if tripled && rest.head? = some '\n' then readEscaped tripled .text rest else none
      else if isControl c then none
      else keep c (readEscaped tripled .text rest)
    | .escape =>
      match Text.shortEscape? c, codeLength? c with
      | some e, _ => keep e (readEscaped tripled .text rest)
      | none, some length => readEscaped tripled (.code length 0) rest
      | none, none =>
        if tripled && atLineEnd (c :: rest) then readEscaped tripled .joining rest else none
    | .code left value =>
      match Text.hexValue? c with
      | none => none
      | some digit =>
        if 1 < left then readEscaped tripled (.code (left - 1) (16 * value + digit)) rest
        else
          match charOfCode? (16 * value + digit) with
          | none => none
          | some e => keep e (readEscaped tripled .text rest)
    | .joining =>
      if c = '\r' && rest.head? ≠ some '\n' then none else readEscaped tripled .joining rest

/-! ## Between single quotes -/

/-- A literal text up to its closing quotes, and what follows them. -/
def readLiteral (tripled : Bool) : List Char → Option (List Char × List Char)
  | [] => none
  | c :: rest =>
    if c = '\'' then
      if !tripled then some ([], rest)
      else if startsTwice '\'' rest then some (closeTripled '\'' (rest.drop 2))
      else keep c (readLiteral tripled rest)
    else if c = '\n' then
      if tripled then keep c (readLiteral tripled rest) else none
    else if c = '\r' then
      if tripled && rest.head? = some '\n' then readLiteral tripled rest else none
    else if isControl c then none
    else keep c (readLiteral tripled rest)

/-! ## All four forms -/

/-- The rest of a text behind a line end, if it starts with one, else the whole text. -/
def skipNewline (cs : List Char) : List Char := (newline? cs).getD cs

/-- A quoted text on one line at the front, and what follows it. -/
def readLineString? : List Char → Option (List Char × List Char)
  | '"' :: rest => readEscaped false .text rest
  | '\'' :: rest => readLiteral false rest
  | _ => none

/-- A quoted text at the front, and what follows it. -/
def readString? : List Char → Option (List Char × List Char)
  | '"' :: '"' :: '"' :: rest => readEscaped true .text (skipNewline rest)
  | '\'' :: '\'' :: '\'' :: rest => readLiteral true (skipNewline rest)
  | cs => readLineString? cs

end UnitBinding.Toml
