import UnitBinding.Decimal.Layout
import UnitBinding.Toml.Quoted

set_option autoImplicit false

/-! # Configuration files: numbers, truth values, dates

These values are single words of letters, digits and a few signs, except that a date and a time may be
set apart by one blank. `ofWord?` reads a word; `ofWords?` also looks at the word behind a date. -/

namespace UnitBinding.Toml

/-! ## Digits -/

/-- The digits of a group in which single underscores may stand between digits. -/
def digitGroup? (isDigit : Char → Bool) : List Char → Option (List Char)
  | [] => none
  | c :: rest =>
    if !isDigit c then none
    else match rest with
      | [] => some [c]
      | '_' :: more => (digitGroup? isDigit more).map (c :: ·)
      | more => (digitGroup? isDigit more).map (c :: ·)

/-- The value of digits in a base. -/
def valueIn (base : Nat) (digits : List Char) : Nat :=
  digits.foldl (fun n c => base * n + (Text.hexValue? c).getD 0) 0

/-- Whether a character is a digit of a base up to sixteen. -/
def isDigitIn (base : Nat) (c : Char) : Bool := (Text.hexValue? c).any (· < base)

/-- A word without its sign, and whether the sign was a minus. -/
def splitSign : List Char → Bool × List Char
  | '-' :: rest => (true, rest)
  | '+' :: rest => (false, rest)
  | cs => (false, cs)

/-- The digits of a whole decimal number: no zero in front of other digits. -/
def wholeDigits? (cs : List Char) : Option (List Char) :=
  match digitGroup? Char.isDigit cs with
  | some ('0' :: _ :: _) => none
  | digits => digits

/-! ## Integers -/

/-- The base behind a leading zero. -/
def baseOf? : Char → Option Nat
  | 'x' => some 16
  | 'o' => some 8
  | 'b' => some 2
  | _ => none

/-- A number in another base, which has no sign. -/
def basedNat? : List Char → Option Nat
  | '0' :: marker :: digits =>
    (baseOf? marker).bind fun base => (digitGroup? (isDigitIn base) digits).map (valueIn base)
  | _ => none

/-- The integer of a word, if it fits sixty-four bits with a sign. -/
def int? (cs : List Char) : Option Int :=
  let i : Option Int := match basedNat? cs with
    | some n => some n
    | none =>
      let (negative, rest) := splitSign cs
      (wholeDigits? rest).map fun digits =>
        if negative then -(Decimal.digitsValue digits : Int) else Decimal.digitsValue digits
  i.filter fun i => -(Int.pow 2 63) ≤ i && i < Int.pow 2 63

/-! ## Floating point -/

/-- Before and behind the first character with a property, which itself is dropped. -/
def splitAt? (p : Char → Bool) (cs : List Char) : Option (List Char × List Char) :=
  match cs.dropWhile fun c => !p c with
  | [] => none
  | _ :: rest => some (cs.takeWhile fun c => !p c, rest)

/-- The exponent of a number, its sign first. -/
def exponent? (cs : List Char) : Option Int :=
  let (negative, rest) := splitSign cs
  (digitGroup? Char.isDigit rest).map fun digits =>
    if negative then -(Decimal.digitsValue digits : Int) else Decimal.digitsValue digits

/-- A number with a fraction, an exponent, or both. -/
def decimal? (negative : Bool) (cs : List Char) : Option Binary64 := do
  let (mantissa, power) := match splitAt? (fun c => c = 'e' || c = 'E') cs with
    | some (mantissa, power) => (mantissa, some power)
    | none => (cs, none)
  let (whole, fraction) := match splitAt? (· = '.') mantissa with
    | some (whole, fraction) => (whole, some fraction)
    | none => (mantissa, none)
  if power.isNone && fraction.isNone then none
  else
    let whole ← wholeDigits? whole
    let fraction ← match fraction with
      | none => some []
      | some digits => digitGroup? Char.isDigit digits
    let power ← match power with
      | none => some 0
      | some digits => exponent? digits
    return Binary64.ofDecimal negative (Decimal.digitsValue (whole ++ fraction))
      (power - fraction.length)

/-- The floating-point number of a word. A number too large is refused if it is positive. -/
def float? (cs : List Char) : Option Binary64 :=
  let (negative, rest) := splitSign cs
  match rest with
  | ['i', 'n', 'f'] => some (Binary64.infinity negative)
  | ['n', 'a', 'n'] => some (Binary64.nan negative)
  | _ => (decimal? negative rest).filter fun x => x ≠ Binary64.infinity false

/-! ## Dates and times -/

/-- A number of exactly two digits, at most `most`, at the front. -/
def twoDigits? (most : Nat) : List Char → Option (Nat × List Char)
  | a :: b :: rest =>
    if a.isDigit && b.isDigit && Decimal.digitsValue [a, b] ≤ most then
      some (Decimal.digitsValue [a, b], rest)
    else none
  | _ => none

/-- The number of days of a month. -/
def daysIn (year month : Nat) : Nat :=
  if month = 2 then
    if year % 4 = 0 && (year % 100 ≠ 0 || year % 400 = 0) then 29 else 28
  else if month = 4 || month = 6 || month = 9 || month = 11 then 30
  else 31

/-- A date at the front: what follows it. -/
def skipDate? : List Char → Option (List Char)
  | a :: b :: c :: d :: '-' :: rest =>
    if [a, b, c, d].all Char.isDigit then
      match twoDigits? 12 rest with
      | some (month, '-' :: rest) =>
        match twoDigits? (daysIn (Decimal.digitsValue [a, b, c, d]) month) rest with
        | some (day, rest) => if 1 ≤ month && 1 ≤ day then some rest else none
        | none => none
      | _ => none
    else none
  | _ => none

/-- A time of day at the front, perhaps with a fraction of a second: what follows it. -/
def skipTime? (cs : List Char) : Option (List Char) :=
  match twoDigits? 23 cs with
  | some (_, ':' :: rest) =>
    match twoDigits? 59 rest with
    | some (_, ':' :: rest) =>
      match twoDigits? 60 rest with
      | some (_, '.' :: c :: rest) =>
        if c.isDigit then some (rest.dropWhile Char.isDigit) else none
      | some (_, rest) => some rest
      | none => none
    | _ => none
  | _ => none

/-- Whether a text is nothing or an offset from universal time. -/
def isOffset : List Char → Bool
  | [] => true
  | [c] => c = 'Z' || c = 'z'
  | sign :: rest =>
    (sign = '+' || sign = '-') &&
      match twoDigits? 23 rest with
      | some (_, ':' :: rest) => (twoDigits? 59 rest).any fun r => r.2 = []
      | _ => false

/-- Whether a text is a time of day with an optional offset. -/
def isZonedTime (cs : List Char) : Bool := (skipTime? cs).any isOffset

/-- Whether a word is a date, a time, or a date and a time. -/
def isMoment (cs : List Char) : Bool :=
  match skipDate? cs with
  | some [] => true
  | some (c :: rest) => (c = 'T' || c = 't') && isZonedTime rest
  | none => (skipTime? cs).any fun rest => rest = []

/-- Whether a word is a date alone. -/
def isDate (cs : List Char) : Bool := (skipDate? cs).any fun rest => rest = []

/-! ## Words -/

/-- Whether a character can stand in a word. -/
def isWordChar (c : Char) : Bool :=
  c.isAlphanum || c = '_' || c = '+' || c = '-' || c = '.' || c = ':'

/-- The value of a word. -/
def ofWord? (word : List Char) : Option Value :=
  match int? word with
  | some i => some (.int i)
  | none =>
    if word = ['t', 'r', 'u', 'e'] then some (.bool true)
    else if word = ['f', 'a', 'l', 's', 'e'] then some (.bool false)
    else match float? word with
      | some x => some (.float x)
      | none => if isMoment word then some .moment else none

/-- The value of the word at the front of a text, and what follows it. -/
def readWord? (cs : List Char) : Option (Value × List Char) :=
  let word := cs.takeWhile isWordChar
  let rest := cs.dropWhile isWordChar
  match ofWord? word with
  | none => none
  | some value =>
    match rest with
    | ' ' :: more =>
      if isDate word && isZonedTime (more.takeWhile isWordChar) then
        some (.moment, more.dropWhile isWordChar)
      else some (value, rest)
    | _ => some (value, rest)

end UnitBinding.Toml
