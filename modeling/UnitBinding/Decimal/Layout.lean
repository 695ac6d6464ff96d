import UnitBinding.Decimal.Shortest

set_option autoImplicit false

/-! # Writing and reading doubles

`Layout` holds the decisions that differ between two written forms of the same digits: which numbers
are written positionally, whether an integral number keeps its point, what the exponent looks like.
`Layout.render` writes with any layout; the library has two, `exchange` for numbers in data and
`plain` for numbers in diagnostics of configuration. -/

namespace UnitBinding.Decimal

/-- How the digits of a number are laid out. -/
structure Layout where
  /-- Numbers from `10 ^ leastPositional` on are written without an exponent … -/
  leastPositional : Option Int
  /-- … as long as they stay below `10 ^ pastPositional`. -/
  pastPositional : Option Int
  /-- Whether an integral number is followed by a point and a zero. -/
  pointed : Bool
  /-- Whether a positive exponent has a sign. -/
  signedExponent : Bool

/-- Numbers in data: positional from 0.00001 up to sixteen places, else with a signed exponent, and
    always recognisable as no integer. -/
def Layout.exchange : Layout := ⟨some (-5), some 16, true, true⟩

/-- Numbers in diagnostics of configuration: always positional, an integral number without a
    point. -/
def Layout.plain : Layout := ⟨none, none, false, false⟩

/-- The decimal digits of a natural number. -/
def digitChars (n : Nat) : List Char := Nat.toDigits 10 n

/-- `digits · 10 ^ exponent` without an exponent. -/
def positional (pointed : Bool) (digits : List Char) (exponent : Int) : List Char :=
  if 0 ≤ exponent then
    digits ++ List.replicate exponent.toNat '0' ++ (if pointed then ['.', '0'] else [])
  else
    let fraction := (-exponent).toNat
    if fraction < digits.length then
      digits.take (digits.length - fraction) ++ '.' :: digits.drop (digits.length - fraction)
    else ['0', '.'] ++ List.replicate (fraction - digits.length) '0' ++ digits

/-- One digit, the others behind a point, and the power of ten of the first digit. -/
def exponential (signed : Bool) (digits : List Char) (leading : Int) : List Char :=
  let mantissa := match digits with
    | [] => ['0']
    | [d] => [d]
    | d :: rest => d :: '.' :: rest
  let sign := if leading < 0 then ['-'] else if signed then ['+'] else []
  mantissa ++ 'e' :: sign ++ digitChars leading.natAbs

/-- The digits of a positive number in a layout. -/
def Layout.renderScientific (layout : Layout) (s : Scientific) : List Char :=
  let digits := digitChars s.digits
  let leading : Int := digits.length + s.exponent - 1
  let small := layout.leastPositional.any (leading < ·)
  let large := layout.pastPositional.any (· ≤ leading)
  if small || large then exponential layout.signedExponent digits leading
  else positional layout.pointed digits s.exponent

/-- A double in a layout. -/
def Layout.render (layout : Layout) (x : Binary64) : String :=
  let sign := if x.isNegative then ['-'] else []
  match x.magnitude with
  | .nan => "NaN"
  | .infinite => String.ofList (sign ++ "inf".toList)
  | .finite 0 _ => String.ofList (sign ++ (if layout.pointed then "0.0" else "0").toList)
  | .finite m q => String.ofList (sign ++ layout.renderScientific (shortest m q))

/-! ## Reading -/

/-- The value of a run of decimal digits. -/
def digitsValue (digits : List Char) : Nat :=
  digits.foldl (fun n c => 10 * n + (c.toNat - 48)) 0

/-- The digits at the front of a text, and what follows them. -/
def spanDigits (cs : List Char) : List Char × List Char :=
  (cs.takeWhile Char.isDigit, cs.dropWhile Char.isDigit)

/-- A signed integer in decimal digits, as an exponent has it. -/
def readExponent? : List Char → Option Int
  | '+' :: cs => unsigned? cs
  | '-' :: cs => (unsigned? cs).map (- ·)
  | cs => unsigned? cs
where
  unsigned? (cs : List Char) : Option Int :=
    if cs ≠ [] && cs.all Char.isDigit then some (digitsValue cs) else none

/-- A decimal literal: digits, perhaps a point and more digits, perhaps an exponent. At least one
    digit stands before or after the point. -/
def readUnsigned? (negative : Bool) (cs : List Char) : Option Binary64 :=
  let (whole, rest) := spanDigits cs
  let (fraction, rest) := match rest with
    | '.' :: more => spanDigits more
    | _ => ([], rest)
  if whole ++ fraction = [] then none
  else
    let number (exponent : Int) :=
      Binary64.ofDecimal negative (digitsValue (whole ++ fraction)) (exponent - fraction.length)
    match rest with
    | [] => some (number 0)
    | c :: power => if c = 'e' || c = 'E' then (readExponent? power).map number else none

/-- A decimal literal with an optional sign. -/
def read? : List Char → Option Binary64
  | '-' :: cs => readUnsigned? true cs
  | '+' :: cs => readUnsigned? false cs
  | cs => readUnsigned? false cs

end UnitBinding.Decimal
