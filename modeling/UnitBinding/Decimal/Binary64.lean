set_option autoImplicit false

/-! # Double-precision numbers

A double is its bit pattern, so that two numbers are equal here exactly when they are the same
pattern. `Binary64.magnitude` reads a pattern as `significand · 2 ^ exponent`; `ofRatio` goes the
other way and rounds an exact quotient to the nearest pattern, a tie to the even significand. All
of it is arithmetic on `Nat` and `Int`. -/

namespace UnitBinding

/-- A double-precision number, by its bit pattern. -/
structure Binary64 where
  /-- Sign bit, eleven bits of exponent, fifty-two bits of fraction. -/
  bits : UInt64
  deriving DecidableEq, Inhabited

namespace Binary64

/-- What a pattern stands for, its sign aside. -/
inductive Magnitude where
  | nan
  | infinite
  | finite (significand : Nat) (exponent : Int)
  deriving DecidableEq

/-- Whether the sign bit is set; zero and NaN have one as well. -/
def isNegative (x : Binary64) : Bool :=
  Nat.pow 2 63 ≤ x.bits.toNat

/-- The eleven exponent bits. -/
def exponentField (x : Binary64) : Nat :=
  x.bits.toNat / Nat.pow 2 52 % Nat.pow 2 11

/-- The fifty-two fraction bits. -/
def fractionField (x : Binary64) : Nat :=
  x.bits.toNat % Nat.pow 2 52

/-- The number that a pattern stands for, its sign aside. -/
def magnitude (x : Binary64) : Magnitude :=
  if x.exponentField = Nat.pow 2 11 - 1 then
    if x.fractionField = 0 then .infinite else .nan
  else if x.exponentField = 0 then .finite x.fractionField (-1074)
  else .finite (Nat.pow 2 52 + x.fractionField) (x.exponentField - 1075)

/-- The pattern of a sign and the sixty-three bits below it. -/
def ofMagnitudeBits (negative : Bool) (bits : Nat) : Binary64 :=
  ⟨UInt64.ofNat (if negative then Nat.pow 2 63 + bits else bits)⟩

/-- The two infinities. -/
def infinity (negative : Bool) : Binary64 :=
  ofMagnitudeBits negative (2047 * Nat.pow 2 52)

/-- The quiet NaN. -/
def nan (negative : Bool) : Binary64 :=
  ofMagnitudeBits negative (2047 * Nat.pow 2 52 + Nat.pow 2 51)

/-- A quotient rounded to the nearest integer, a tie to the even one. -/
def roundDiv (num den : Nat) : Nat :=
  let floor := num / den
  let rest := num % den
  if 2 * rest < den then floor
  else if den < 2 * rest then floor + 1
  else floor + floor % 2

/-- A quotient is off by at most half a unit after rounding. -/
theorem roundDiv_near (num den : Nat) (h : 0 < den) :
    2 * num ≤ (2 * roundDiv num den + 1) * den ∧ (2 * roundDiv num den) * den ≤ 2 * num + den := by
  have hdiv := Nat.div_add_mod num den
  have hlt := Nat.mod_lt num h
  have hcomm : den * (num / den) = num / den * den := Nat.mul_comm _ _
  unfold roundDiv
  dsimp only
  split
  · simp only [Nat.add_mul, Nat.mul_assoc]; omega
  · split
    · simp only [Nat.add_mul, Nat.mul_add, Nat.mul_assoc]; omega
    · rcases Nat.mod_two_eq_zero_or_one (num / den) with hp | hp <;>
        simp only [hp, Nat.add_mul, Nat.mul_add, Nat.mul_assoc] <;> omega

/-- The number nearest to `num / den`, a tie going to the even significand and anything beyond the
    largest finite number to infinity. -/
def ofRatio (negative : Bool) (num den : Nat) : Binary64 :=
  if num = 0 then ofMagnitudeBits negative 0
  else
    let guess : Int := (num.log2 : Int) - (den.log2 : Int) - 53
    let scaled (q : Int) : Nat × Nat := (num * Nat.pow 2 (-q).toNat, den * Nat.pow 2 q.toNat)
    let fine : Int := max guess (-1074)
    let (n₀, d₀) := scaled fine
    let q : Int := if Nat.pow 2 53 ≤ n₀ / d₀ then fine + 1 else fine
    let (n, d) := scaled q
    let bits := roundDiv n d + (q + 1074).toNat * Nat.pow 2 52
    if 2047 * Nat.pow 2 52 ≤ bits then infinity negative else ofMagnitudeBits negative bits

/-- The number nearest to an integer. -/
def ofInt (i : Int) : Binary64 :=
  ofRatio (i < 0) i.natAbs 1

/-- The number nearest to `digits · 10 ^ exponent`. Far outside the range of finite numbers the
    answer is known without computing the power. -/
def ofDecimal (negative : Bool) (digits : Nat) (exponent : Int) : Binary64 :=
  if digits = 0 then ofMagnitudeBits negative 0
  else
    let places : Int := (Nat.toDigits 10 digits).length + exponent
    if 320 < places then infinity negative
    else if places < -340 then ofMagnitudeBits negative 0
    else if 0 ≤ exponent then ofRatio negative (digits * Nat.pow 10 exponent.toNat) 1
    else ofRatio negative digits (Nat.pow 10 (-exponent).toNat)

/-- Positive zero. -/
def zero : Binary64 := ⟨0⟩

end Binary64

end UnitBinding
