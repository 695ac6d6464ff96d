import Mathlib.Algebra.Group.Nat.Defs
import Mathlib.Tactic.ByContra
import UnitBinding.Text.Raw

set_option autoImplicit false

/-! # The order of texts and of their bytes

Texts are ordered by their characters, and a character by its number. Stored texts are often ordered by
the bytes of their UTF-8 form instead. It is the same order (`Text.bytes_lt_iff`): the first byte of a
character tells how many follow, more of them for greater numbers, and the bytes are the digits of the
number, highest first. So two characters are told apart within their own bytes, and what follows them
does not count (`Text.encoded_lt`). -/

namespace UnitBinding.Text

theorem bytes_eq_flatMap (s : String) : bytes s = s.toList.flatMap String.utf8EncodeChar := by
  conv => lhs; rw [← String.ofList_toList (s := s)]
  show (String.ofList s.toList).toByteArray.data.toList = _
  rw [String.toByteArray_ofList, List.utf8Encode, List.data_toByteArray]

/-! ## One character -/

/-- The last digits of a number to the base 64, as the bytes that follow a first one. -/
def continuation : Nat → Nat → List UInt8
  | 0, _ => []
  | k + 1, v => UInt8.ofNat (v / 64 ^ k % 64 + 128) :: continuation k v

/-- What the first byte holds besides the highest digit, by the number of bytes that follow. -/
def leadMark : Nat → Nat
  | 0 => 0
  | 1 => 192
  | 2 => 224
  | _ => 240

/-- The number of bytes that follow the first one. -/
def following (v : Nat) : Nat :=
  if v ≤ 127 then 0 else if v ≤ 2047 then 1 else if v ≤ 65535 then 2 else 3

/-- The number in a first byte. -/
def lead (v : Nat) : Nat := v / 64 ^ following v + leadMark (following v)

theorem number_lt (c : Char) : c.val.toNat < 1114112 := by
  rcases c.valid with h | ⟨-, h⟩
  · exact Nat.lt_trans h (by decide)
  · exact h

theorem utf8EncodeChar_eq (c : Char) :
    String.utf8EncodeChar c
      = UInt8.ofNat (lead c.val.toNat) :: continuation (following c.val.toNat) c.val.toNat := by
  have hbound := number_lt c
  unfold String.utf8EncodeChar lead following
  dsimp only
  generalize c.val.toNat = v at *
  -- the highest digit is small enough, so nothing is cut off
  split
  · simp [continuation, leadMark]
  · split
    · have hhigh : v / 64 % 32 = v / 64 := Nat.mod_eq_of_lt (by omega)
      simp [continuation, leadMark, hhigh]
    · split
      · have hhigh : v / 4096 % 16 = v / 4096 := Nat.mod_eq_of_lt (by omega)
        simp [continuation, leadMark, hhigh]
      · have hhigh : v / 262144 % 8 = v / 262144 := Nat.mod_eq_of_lt (by omega)
        simp [continuation, leadMark, hhigh]

theorem ofNat_lt_ofNat {x y : Nat} (h : x < y) (hy : y < 256) : UInt8.ofNat x < UInt8.ofNat y := by
  rw [UInt8.lt_iff_toNat_lt, UInt8.toNat_ofNat', UInt8.toNat_ofNat',
    Nat.mod_eq_of_lt (Nat.lt_trans h hy), Nat.mod_eq_of_lt hy]
  exact h

/-- Numbers with the same higher digits are told apart by the lower ones, whatever comes next. -/
theorem continuation_lt (k : Nat) {v w : Nat} (hhigh : v / 64 ^ k = w / 64 ^ k) (h : v < w)
    (xs ys : List UInt8) : continuation k v ++ xs < continuation k w ++ ys := by
  induction k with
  | zero =>
    rw [Nat.pow_zero, Nat.div_one, Nat.div_one] at hhigh
    omega
  | succ k ih =>
    rw [continuation, continuation, List.cons_append, List.cons_append, List.cons_lt_cons_iff]
    rw [Nat.pow_succ, ← Nat.div_div_eq_div_mul, ← Nat.div_div_eq_div_mul] at hhigh
    rcases Nat.lt_or_eq_of_le (Nat.div_le_div_right (c := 64 ^ k) (Nat.le_of_lt h)) with hlt | heq
    · exact Or.inl (ofNat_lt_ofNat (by omega) (by omega))
    · exact Or.inr ⟨by rw [heq], ih heq⟩

/-- The four forms of a character. -/
theorem lead_cases (v : Nat) :
    (v ≤ 127 ∧ following v = 0 ∧ lead v = v)
      ∨ (127 < v ∧ v ≤ 2047 ∧ following v = 1 ∧ lead v = v / 64 + 192)
      ∨ (2047 < v ∧ v ≤ 65535 ∧ following v = 2 ∧ lead v = v / 4096 + 224)
      ∨ (65535 < v ∧ following v = 3 ∧ lead v = v / 262144 + 240) := by
  by_cases hone : v ≤ 127
  · have hcount : following v = 0 := by rw [following, if_pos hone]
    exact Or.inl ⟨hone, hcount, by rw [lead, hcount, Nat.pow_zero, Nat.div_one]; rfl⟩
  · by_cases htwo : v ≤ 2047
    · have hcount : following v = 1 := by rw [following, if_neg hone, if_pos htwo]
      exact Or.inr (Or.inl ⟨by omega, htwo, hcount, by rw [lead, hcount]; rfl⟩)
    · by_cases hthree : v ≤ 65535
      · have hcount : following v = 2 := by
          rw [following, if_neg hone, if_neg htwo, if_pos hthree]
        exact Or.inr (Or.inr (Or.inl ⟨by omega, hthree, hcount, by rw [lead, hcount]; rfl⟩))
      · have hcount : following v = 3 := by
          rw [following, if_neg hone, if_neg htwo, if_neg hthree]
        exact Or.inr (Or.inr (Or.inr ⟨by omega, hcount, by rw [lead, hcount]; rfl⟩))

/-- A first byte grows with the number of bytes that follow, and within one such number with the
    highest digit. -/
theorem lead_lt {v w : Nat} (hw : w < 1114112) (h : v < w)
    (hdigit : following v = following w → v / 64 ^ following v < w / 64 ^ following v) :
    lead v < lead w ∧ lead w < 256 := by
  rcases lead_cases v with
      ⟨hv, hk, hl⟩ | ⟨hv, hv', hk, hl⟩ | ⟨hv, hv', hk, hl⟩ | ⟨hv, hk, hl⟩ <;>
    rcases lead_cases w with
      ⟨hx, hj, hm⟩ | ⟨hx, hx', hj, hm⟩ | ⟨hx, hx', hj, hm⟩ | ⟨hx, hj, hm⟩ <;>
    rw [hk, hj] at hdigit <;> omega

/-- **One character.** The bytes of the greater one are greater, whatever comes after both. -/
theorem encoded_lt {c d : Char} (h : c < d) (xs ys : List UInt8) :
    String.utf8EncodeChar c ++ xs < String.utf8EncodeChar d ++ ys := by
  have hlt : c.val.toNat < d.val.toNat := h
  rw [utf8EncodeChar_eq, utf8EncodeChar_eq, List.cons_append, List.cons_append,
    List.cons_lt_cons_iff]
  by_cases hsame : following c.val.toNat = following d.val.toNat
      ∧ c.val.toNat / 64 ^ following c.val.toNat = d.val.toNat / 64 ^ following c.val.toNat
  · obtain ⟨hcount, hhigh⟩ := hsame
    refine Or.inr ⟨?_, ?_⟩
    · rw [lead, lead, ← hcount, hhigh]
    · rw [← hcount]
      exact continuation_lt _ hhigh hlt xs ys
  · refine Or.inl ?_
    have hdigit : following c.val.toNat = following d.val.toNat →
        c.val.toNat / 64 ^ following c.val.toNat < d.val.toNat / 64 ^ following c.val.toNat :=
      fun hcount => Nat.lt_of_le_of_ne (Nat.div_le_div_right (Nat.le_of_lt hlt))
        fun hhigh => hsame ⟨hcount, hhigh⟩
    obtain ⟨hlead, hbyte⟩ := lead_lt (number_lt d) hlt hdigit
    exact ofNat_lt_ofNat hlead hbyte

/-! ## Whole texts -/

theorem flatMap_encoded_lt {cs ds : List Char} (h : cs < ds) :
    cs.flatMap String.utf8EncodeChar < ds.flatMap String.utf8EncodeChar := by
  induction cs generalizing ds with
  | nil =>
    cases ds with
    | nil => exact absurd h (List.lt_irrefl _)
    | cons d rest =>
      rw [List.flatMap_cons, utf8EncodeChar_eq]
      exact List.nil_lt_cons _ _
  | cons c rest ih =>
    cases ds with
    | nil => exact absurd h (List.not_lt_nil _)
    | cons d others =>
      rw [List.flatMap_cons, List.flatMap_cons]
      rcases List.cons_lt_cons_iff.1 h with hlt | ⟨rfl, hrest⟩
      · exact encoded_lt hlt _ _
      · exact List.append_left_lt (ih hrest)

/-- **The order of texts is that of their bytes.** -/
theorem bytes_lt_iff {s t : String} : bytes s < bytes t ↔ s < t := by
  have hmono : ∀ {s t : String}, s < t → bytes s < bytes t := by
    intro s t h
    rw [bytes_eq_flatMap, bytes_eq_flatMap]
    exact flatMap_encoded_lt (String.lt_iff.1 h)
  refine ⟨fun h => ?_, hmono⟩
  by_contra hnot
  by_cases hsame : s = t
  · rw [hsame] at h
    exact List.lt_irrefl _ h
  · have hgreater : t < s := Std.lt_of_le_of_ne (String.not_lt.1 hnot) (Ne.symm hsame)
    exact List.lt_asymm h (hmono hgreater)

end UnitBinding.Text
