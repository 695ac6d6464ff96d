import Mathlib.Data.List.Basic
import Mathlib.Data.List.TakeWhile
import Mathlib.Data.Nat.Digits.Defs
import UnitBinding.Config.Printer
import UnitBinding.Toml.Number

set_option autoImplicit false

/-! # Written numbers and truth values

A number is written as its decimal digits and read back as a word. A word of digits can be nothing but an
integer, so a number beyond the signed range of sixty-four bits cannot be read at all: it does not turn
into another number, a float or a date (`ofWord?_renderNumber`). -/

namespace UnitBinding

/-- The numbers that can be read back are those below this one. -/
def Toml.integerLimit : Nat := 2 ^ 63

namespace Toml

/-! ## Words of digits -/

section Digits

variable {digits : List Char} (hdigits : ∀ c ∈ digits, c.isDigit = true)
include hdigits

/-- No other mark stands among digits. -/
theorem not_mem_digits (mark : Char) (hmark : mark.isDigit = false) : mark ∉ digits := by
  intro hmem
  rw [hdigits mark hmem] at hmark
  cases hmark

theorem digitGroup?_digits (hne : digits ≠ []) :
    digitGroup? Char.isDigit digits = some digits := by
  induction digits with
  | nil => exact absurd rfl hne
  | cons c rest ih =>
    have hrest := fun d hd => hdigits d (List.mem_cons_of_mem _ hd)
    rw [digitGroup?.eq_def]
    simp only [hdigits c List.mem_cons_self, Bool.not_true, Bool.false_eq_true, if_false]
    split
    · rfl
    · exact absurd List.mem_cons_self (not_mem_digits hrest '_' rfl)
    · rename_i hnil _
      rw [ih hrest hnil, Option.map_some]

theorem splitSign_digits : splitSign digits = (false, digits) := by
  rw [splitSign.eq_def]
  split
  · exact absurd List.mem_cons_self (not_mem_digits hdigits '-' rfl)
  · exact absurd List.mem_cons_self (not_mem_digits hdigits '+' rfl)
  · rfl

theorem basedNat?_digits : basedNat? digits = none := by
  rw [basedNat?.eq_def]
  split
  · rename_i marker more
    have hmarker := hdigits marker (List.mem_cons_of_mem _ List.mem_cons_self)
    have hbase : baseOf? marker = none := by
      rw [baseOf?.eq_def]
      split
      · cases hmarker
      · cases hmarker
      · cases hmarker
      · rfl
    rw [hbase, Option.bind_none]
  · rfl

/-- Nothing in the digits splits them. -/
theorem splitAt?_digits {p : Char → Bool} (hp : ∀ c, c.isDigit = true → p c = false) :
    splitAt? p digits = none := by
  have hnone : digits.dropWhile (fun c => !p c) = [] := by
    rw [List.dropWhile_eq_nil_iff]
    intro c hc
    rw [hp c (hdigits c hc)]
    rfl
  rw [splitAt?, hnone]

theorem decimal?_digits (negative : Bool) : decimal? negative digits = none := by
  have hpower := splitAt?_digits hdigits (p := fun c => c = 'e' || c = 'E') fun c hc => by
    by_contra hmark
    simp only [Bool.not_eq_false, Bool.or_eq_true, decide_eq_true_eq] at hmark
    rcases hmark with rfl | rfl <;> cases hc
  have hfraction := splitAt?_digits hdigits (p := (· = '.')) fun c hc => by
    by_contra hmark
    simp only [Bool.not_eq_false, decide_eq_true_eq] at hmark
    subst hmark
    cases hc
  simp [decimal?, hpower, hfraction]

theorem float?_digits : float? digits = none := by
  rw [float?, splitSign_digits hdigits]
  dsimp only
  split
  · exact absurd List.mem_cons_self (not_mem_digits hdigits 'i' rfl)
  · exact absurd List.mem_cons_self (not_mem_digits hdigits 'n' rfl)
  · rw [decimal?_digits hdigits, Option.filter_none]

theorem skipDate?_digits : skipDate? digits = none := by
  rw [skipDate?.eq_def]
  split
  · exact absurd (by simp) (not_mem_digits hdigits '-' rfl)
  · rfl

theorem skipTime?_digits : skipTime? digits = none := by
  rw [skipTime?]
  split
  · rename_i hour minutes htwo
    -- what follows two digits is still among the digits
    rw [twoDigits?.eq_def] at htwo
    split at htwo
    · split at htwo
      · obtain ⟨-, rfl⟩ := Prod.mk.inj (Option.some.inj htwo)
        exact absurd (by simp) (not_mem_digits hdigits ':' rfl)
      · cases htwo
    · cases htwo
  · rfl

theorem isMoment_digits : isMoment digits = false := by
  rw [isMoment, skipDate?_digits hdigits, skipTime?_digits hdigits]
  rfl

end Digits

/-! ## Decimal digits of a number -/

theorem isDigit_of_mem_renderNumber {n : Nat} {c : Char} (h : c ∈ AppConfig.renderNumber n) :
    c.isDigit = true :=
  Nat.isDigit_of_mem_toDigits (by decide) (by decide) h

theorem digitsValue_renderNumber (n : Nat) : Decimal.digitsValue (AppConfig.renderNumber n) = n :=
  Nat.ofDigitChars_toDigits (by decide) (by decide)

/-- A positive number does not start with a zero. -/
theorem head?_renderNumber {n : Nat} (h : n ≠ 0) : (AppConfig.renderNumber n).head? ≠ some '0' := by
  induction n using Nat.strong_induction_on with
  | _ n ih =>
    rw [AppConfig.renderNumber, Nat.toDigits_eq_if (by decide)]
    split
    · rename_i hsmall
      rw [List.head?_cons]
      intro hzero
      have hvalue := congrArg Char.toNat (Option.some.inj hzero)
      rw [Nat.toNat_digitChar_of_lt_ten hsmall] at hvalue
      have : Char.toNat '0' = 48 := rfl
      omega
    · have hrest := ih (n / 10) (by omega) (by omega)
      rwa [List.head?_append_of_ne_nil _ Nat.toDigits_ne_nil]

theorem wholeDigits?_renderNumber (n : Nat) :
    wholeDigits? (AppConfig.renderNumber n) = some (AppConfig.renderNumber n) := by
  rw [wholeDigits?, digitGroup?_digits (fun c => isDigit_of_mem_renderNumber) Nat.toDigits_ne_nil]
  split
  · rename_i second more heq
    have hrender := Option.some.inj heq
    by_cases hzero : n = 0
    · subst hzero
      cases hrender
    · exact absurd (by rw [hrender]; rfl) (head?_renderNumber hzero)
  · rfl

theorem int?_renderNumber (n : Nat) :
    int? (AppConfig.renderNumber n) = if n < integerLimit then some (n : Int) else none := by
  have hdigits : ∀ c ∈ AppConfig.renderNumber n, c.isDigit = true :=
    fun c => isDigit_of_mem_renderNumber
  simp only [int?, basedNat?_digits hdigits, splitSign_digits hdigits, wholeDigits?_renderNumber,
    Option.map_some, digitsValue_renderNumber, Bool.false_eq_true, if_false]
  have hpow : Int.pow 2 63 = ((integerLimit : Nat) : Int) := rfl
  rw [hpow]
  by_cases hsmall : n < integerLimit
  · rw [if_pos hsmall, Option.filter_some_pos]
    simp only [Bool.and_eq_true, decide_eq_true_eq]
    omega
  · rw [if_neg hsmall, Option.filter_some_neg]
    simp only [Bool.and_eq_false_iff, decide_eq_false_iff_not]
    omega

/-- **A written number is read as itself** if it is small enough, and as nothing else otherwise. -/
theorem ofWord?_renderNumber (n : Nat) :
    ofWord? (AppConfig.renderNumber n)
      = if n < integerLimit then some (.int n) else none := by
  have hdigits : ∀ c ∈ AppConfig.renderNumber n, c.isDigit = true :=
    fun c => isDigit_of_mem_renderNumber
  rw [ofWord?, int?_renderNumber]
  by_cases hsmall : n < integerLimit
  · simp only [if_pos hsmall]
  · have htrue : AppConfig.renderNumber n ≠ ['t', 'r', 'u', 'e'] := fun heq =>
      not_mem_digits hdigits 't' rfl (heq ▸ List.mem_cons_self)
    have hfalse : AppConfig.renderNumber n ≠ ['f', 'a', 'l', 's', 'e'] := fun heq =>
      not_mem_digits hdigits 'f' rfl (heq ▸ List.mem_cons_self)
    simp only [if_neg hsmall, if_neg htrue, if_neg hfalse, float?_digits hdigits,
      isMoment_digits hdigits, Bool.false_eq_true, if_false]

end Toml

end UnitBinding
