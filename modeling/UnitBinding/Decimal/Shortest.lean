import UnitBinding.Decimal.Binary64

set_option autoImplicit false

/-! # The shortest decimal that reads back

A finite double stands for every real number that rounds to it. `shortest` picks, among the decimals
in that interval, one with the fewest digits, and of those the nearest to the number itself: it tries
grids of one digit, two digits and so on, and on each grid only the two neighbours of the number can
be the nearest point of the interval. -/

namespace UnitBinding.Decimal

/-- A positive decimal `digits · 10 ^ exponent`. -/
structure Scientific where
  digits : Nat
  exponent : Int
  deriving DecidableEq

/-- The numbers that round to one double, as numerators over one denominator. -/
structure Interval where
  low : Nat
  value : Nat
  high : Nat
  den : Nat
  /-- Whether the two ends round to the double as well. -/
  closed : Bool

/-- The rounding interval of `significand · 2 ^ exponent`: half a unit to either side, but only a
    quarter below the first number of a binade, where the grid below is finer. -/
def Interval.of (significand : Nat) (exponent : Int) : Interval :=
  let below := if significand = Nat.pow 2 52 && -1074 < exponent then 1 else 2
  let scale := Nat.pow 2 (exponent - 2).toNat
  { low := (4 * significand - below) * scale
    value := 4 * significand * scale
    high := (4 * significand + 2) * scale
    den := Nat.pow 2 (2 - exponent).toNat
    closed := significand % 2 = 0 }

/-- Whether `num / den` lies in the interval. -/
def Interval.contains (i : Interval) (num den : Nat) : Bool :=
  if i.closed then i.low * den ≤ num * i.den && num * i.den ≤ i.high * den
  else i.low * den < num * i.den && num * i.den < i.high * den

/-- The power of ten just below a positive quotient: the `e` with
    `10 ^ e ≤ num / den < 10 ^ (e + 1)`. -/
def decimalExponent (num den : Nat) : Int :=
  if den ≤ num then (Nat.toDigits 10 (num / den)).length - 1
  else
    let places := (Nat.toDigits 10 (den / num)).length
    if den ≤ num * Nat.pow 10 (places - 1) then 1 - places else -places

/-- The better of the two neighbours of the number on the grid of multiples of `10 ^ exponent`, if
    one of them lies in the interval. -/
def neighbour? (i : Interval) (exponent : Int) : Option Scientific :=
  let up := Nat.pow 10 exponent.toNat
  let down := Nat.pow 10 (-exponent).toNat
  let floor := i.value * down / (i.den * up)
  let candidate (n : Nat) : Option Scientific :=
    if i.contains (n * up) down then some ⟨n, exponent⟩ else none
  match candidate floor, candidate (floor + 1) with
  | some a, some b =>
    -- the distance of the number from the grid point below, against half a step
    let rest := i.value * down % (i.den * up)
    if 2 * rest < i.den * up then some a
    else if i.den * up < 2 * rest then some b
    else if floor % 2 = 0 then some a else some b
  | some a, none => some a
  | none, found => found

/-- The first grid with a hit, from `digits` digits on; `fuel` bounds the number of grids. -/
def firstHit (i : Interval) (leading : Int) : Nat → Nat → Scientific
  | 0, digits => ⟨i.value / i.den, digits⟩
  | fuel + 1, digits =>
    match neighbour? i (leading - digits + 1) with
    | some found => found
    | none => firstHit i leading fuel (digits + 1)

/-- Trailing zeros moved into the exponent; `fuel` bounds their number. -/
def dropZeros : Nat → Scientific → Scientific
  | 0, s => s
  | fuel + 1, s =>
    if s.digits ≠ 0 && s.digits % 10 = 0 then dropZeros fuel ⟨s.digits / 10, s.exponent + 1⟩ else s

/-- The shortest decimal that rounds to `significand · 2 ^ exponent`. Seventeen digits always
    suffice. -/
def shortest (significand : Nat) (exponent : Int) : Scientific :=
  let i := Interval.of significand exponent
  dropZeros 20 (firstHit i (decimalExponent i.value i.den) 18 1)

end UnitBinding.Decimal
