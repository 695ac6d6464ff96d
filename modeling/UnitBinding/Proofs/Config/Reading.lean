import Mathlib.Tactic.ByContra
import UnitBinding.Config.Environment

set_option autoImplicit false

/-! # Reading variables

The value of a variable is always read as something, unless the reader cuts a quoted text inside of a
wide character. `Clean` says of a part of the reader that it cut nothing, and left a rest without wide
characters; in a text without wide characters every part is clean, so no reading panics
(`exists_wide_of_panic`). -/

namespace UnitBinding

/-- A text without wide characters. -/
def Text.Narrow (cs : List Char) : Prop := ∀ c ∈ cs, c.utf8Size = 1

namespace Text

theorem Narrow.of_subset {cs rest : List Char} (h : Narrow cs) (hrest : rest ⊆ cs) :
    Narrow rest := fun c hc => h c (hrest hc)

/-- What follows the front of such a text is such a text. -/
theorem Narrow.behind {cs : List Char} (h : Narrow cs) (front : List Char) {rest : List Char}
    (hcs : cs = front ++ rest) : Narrow rest :=
  h.of_subset (hcs ▸ List.subset_append_right front rest)

theorem Narrow.byteLength_eq {cs : List Char} (h : Narrow cs) : byteLength cs = cs.length := by
  induction cs with
  | nil => rfl
  | cons c rest ih =>
    rw [byteLength_cons, h c List.mem_cons_self, ih (h.of_subset (List.subset_cons_self c rest)),
      List.length_cons, Nat.add_comm]

/-- Without wide characters a text is split at its end by its number of characters. -/
theorem Narrow.split_length {cs : List Char} (h : Narrow cs) (side : CutSide) :
    split side cs.length cs = .ok (cs, []) := by
  have hsplit := splitFrom_byteLength side 0 cs
  rw [h.byteLength_eq, Nat.zero_add] at hsplit
  exact hsplit

end Text

namespace Toml

theorem suffix_of_keep {c : Char} {read : Option (List Char × List Char)} {cs text rest : List Char}
    (hread : ∀ text, read = some (text, rest) → rest <:+ cs)
    (h : keep c read = some (text, rest)) : rest <:+ cs := by
  obtain ⟨⟨tail, others⟩, hsome, heq⟩ := Option.map_eq_some_iff.1 h
  obtain ⟨-, rfl⟩ := Prod.mk.inj heq
  exact hread tail hsome

/-- What follows a quoted text is the end of the whole text. -/
theorem suffix_of_readEscaped {mode : Mode} {cs text rest : List Char}
    (h : readEscaped false mode cs = some (text, rest)) : rest <:+ cs := by
  induction cs generalizing mode text with
  | nil =>
    rw [readEscaped] at h
    cases h
  | cons c tail ih =>
    have hnext : ∀ {mode : Mode} (text : List Char),
        readEscaped false mode tail = some (text, rest) → rest <:+ c :: tail :=
      fun text hsome => (ih hsome).trans (List.suffix_cons c tail)
    rw [readEscaped] at h
    simp only [Bool.not_false, Bool.false_and, Bool.false_eq_true, if_true, if_false] at h
    split at h
    · -- in the text
      split at h
      · obtain ⟨-, rfl⟩ := Prod.mk.inj (Option.some.inj h)
        exact List.suffix_cons c tail
      · split at h
        · exact hnext text h
        · split at h
          · cases h
          · split at h
            · cases h
            · split at h
              · cases h
              · exact suffix_of_keep hnext h
    · -- behind a backslash
      split at h
      · exact suffix_of_keep hnext h
      · exact hnext text h
      · cases h
    · -- within a numeric escape
      split at h
      · cases h
      · split at h
        · exact hnext text h
        · split at h
          · cases h
          · exact suffix_of_keep hnext h
    · -- behind a line end
      split at h
      · cases h
      · exact hnext text h

end Toml

/-! ## Clean readings -/

namespace Environment

open Text (Reading Narrow)

variable {α β : Type}

/-- A reading that cut nothing, and left a rest without wide characters. -/
def Clean (read : Reading (α × List Char)) : Prop :=
  match read with
  | .ok (_, rest) => Narrow rest
  | .error .malformed => True
  | .error (.cut _) => False

theorem Clean.map {read : Reading (α × List Char)} (h : Clean read) {f : α × List Char → β × List Char}
    (hf : ∀ a rest, Narrow rest → Narrow (f (a, rest)).2) : Clean (read.map f) := by
  cases read with
  | ok r => exact hf r.1 r.2 h
  | error fault =>
    cases fault with
    | malformed => trivial
    | cut fault => exact h

theorem Clean.bind {read : Reading (α × List Char)} (h : Clean read)
    {next : α × List Char → Reading (β × List Char)}
    (hnext : ∀ a rest, Narrow rest → Clean (next (a, rest))) : Clean (read >>= next) := by
  cases read with
  | ok r => exact hnext r.1 r.2 h
  | error fault =>
    cases fault with
    | malformed => trivial
    | cut fault => exact h

theorem clean_ofOption {read : Option (α × List Char)}
    (h : ∀ a rest, read = some (a, rest) → Narrow rest) : Clean (Reading.ofOption read) := by
  cases read with
  | none => trivial
  | some r => exact h r.1 r.2 rfl

theorem narrow_skipGap {cs : List Char} (h : Narrow cs) : Narrow (skipGap cs) :=
  h.of_subset (List.dropWhile_subset _)

theorem clean_readQuoted {cs : List Char} (h : Narrow cs) : Clean (readQuoted cs) := by
  have hplain : Narrow (cs.takeWhile isPlain) := h.of_subset (List.takeWhile_subset _)
  have hescaped : ∀ {mode : Toml.Mode} {rest : List Char}, Narrow rest →
      Clean (Reading.ofOption (Toml.readEscaped false mode rest)) := by
    intro mode rest hrest
    refine clean_ofOption fun text others hread => ?_
    exact hrest.of_subset (Toml.suffix_of_readEscaped hread).subset
  rw [readQuoted]
  split
  · rename_i rest hrest
    have hnarrow : Narrow rest := Narrow.behind (h.of_subset (List.dropWhile_subset _)) ['\\'] hrest
    split
    · trivial
    · rw [hplain.split_length]
      exact (hescaped hnarrow).bind fun tail rest hrest => hrest
  · exact hescaped h

theorem clean_readKey {cs : List Char} (h : Narrow cs) : Clean (readKey cs) := by
  unfold readKey
  split
  · rename_i rest
    exact (clean_readQuoted (h.behind ['"'] rfl)).map fun _ _ hrest => hrest
  · split
    · trivial
    · exact h.of_subset (List.dropWhile_subset _)

/-- Nothing is cut in a text without wide characters, within a number of steps. -/
structure CleanWithin (fuel : Nat) : Prop where
  value : ∀ cs, Narrow cs → Clean (readValue fuel cs)
  elements : ∀ cs, Narrow cs → Clean (readElements fuel cs)
  pairs : ∀ cs, Narrow cs → Clean (readPairs fuel cs)

namespace CleanWithin

variable {fuel : Nat}

theorem zero : CleanWithin 0 where
  value cs _ := by
    rw [readValue]
    trivial
  elements cs _ := by
    rw [readElements]
    trivial
  pairs cs _ := by
    rw [readPairs]
    trivial

theorem readValue_succ (h : CleanWithin fuel) {cs : List Char} (hcs : Narrow cs) :
    Clean (readValue (fuel + 1) cs) := by
  have hgap := narrow_skipGap hcs
  rw [readValue]
  split
  · rename_i heq
    exact narrow_skipGap (hgap.behind ['t', 'r', 'u', 'e'] heq)
  · rename_i heq
    exact narrow_skipGap (hgap.behind ['f', 'a', 'l', 's', 'e'] heq)
  · rename_i heq
    exact (h.pairs _ (hgap.behind ['\x7b'] heq)).map fun _ _ hrest => narrow_skipGap hrest
  · rename_i heq
    exact (h.elements _ (hgap.behind ['['] heq)).map fun _ _ hrest => narrow_skipGap hrest
  · rename_i heq
    exact (clean_readQuoted (hgap.behind ['"'] heq)).map fun _ _ hrest => narrow_skipGap hrest
  · rename_i heq
    split
    · rename_i c rest
      exact narrow_skipGap (hgap.behind ['\'', c, '\''] heq)
    · trivial
  · -- a word takes characters away and leaves the rest
    exact hgap.of_subset (List.dropWhile_subset _)

theorem readElements_succ (h : CleanWithin fuel) {cs : List Char} (hcs : Narrow cs) :
    Clean (readElements (fuel + 1) cs) := by
  unfold readElements
  split
  · exact hcs.behind [']'] rfl
  · refine (h.value cs hcs).bind fun value rest hrest => ?_
    dsimp only
    split
    · exact (h.elements _ (hrest.behind [','] rfl)).map fun _ _ hrest => hrest
    · exact hrest.behind [']'] rfl
    · trivial

theorem readPairs_succ (h : CleanWithin fuel) {cs : List Char} (hcs : Narrow cs) :
    Clean (readPairs (fuel + 1) cs) := by
  unfold readPairs
  split
  · exact hcs.behind ['\x7d'] rfl
  · refine (clean_readKey (narrow_skipGap hcs)).bind fun key rest hrest => ?_
    dsimp only
    split
    · rename_i heq
      have hgap := (narrow_skipGap hrest).behind ['='] heq
      refine (h.value _ hgap).bind fun value rest hrest => ?_
      dsimp only
      split
      · exact (h.pairs _ (hrest.behind [','] rfl)).map fun _ _ hrest => hrest
      · exact hrest.behind ['\x7d'] rfl
      · trivial
    · trivial

/-- **Nothing is cut** in a text without wide characters. -/
theorem all (fuel : Nat) : CleanWithin fuel := by
  -- the three readers call each other with one step less
  induction fuel with
  | zero => exact zero
  | succ fuel ih =>
    exact ⟨fun _ => ih.readValue_succ, fun _ => ih.readElements_succ, fun _ => ih.readPairs_succ⟩

end CleanWithin

/-! ## Whole variables -/

/-- The value of a variable is read as something, or the reader panics. -/
theorem readVariable_cases (text : String) :
    (∃ value, readVariable text = .ok value) ∨ ∃ message, readVariable text = .panic message := by
  unfold readVariable
  split
  · exact Or.inl ⟨_, rfl⟩
  · exact Or.inr ⟨_, rfl⟩
  · exact Or.inl ⟨_, rfl⟩

/-- **A panic needs a wide character.** -/
theorem exists_wide_of_panic {text message : String} (h : readVariable text = .panic message) :
    ∃ c ∈ text.toList, c.utf8Size ≠ 1 := by
  by_contra hnone
  have hnarrow : Narrow text.toList := by
    intro c hc
    by_contra hwide
    exact hnone ⟨c, hc, hwide⟩
  have hclean := (CleanWithin.all (2 * text.toList.length + 2)).value _ hnarrow
  unfold readVariable at h
  split at h
  · cases h
  · rename_i heq
    rw [heq] at hclean
    exact hclean
  · cases h

end Environment

end UnitBinding
