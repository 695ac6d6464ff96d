import UnitBinding.Config.Environment
import UnitBinding.Proofs.Config.Setting

set_option autoImplicit false

/-! # Names of variables

A variable names a setting by the prefix, the section and the key with two underscores in between, in
whatever case its letters are: `path?_of_spelled`. Reading a name looks at points, underscores and
blanks only. None of them is a letter, so it makes no difference whether the letters of a name are
lowered after it is read or before (`keysOf?_map_toLower`). -/

namespace UnitBinding

/-! ## Letters -/

/-- The capital letters move up, and all other characters stay. -/
theorem toNat_toLower (c : Char) :
    c.toLower.toNat = if 65 ≤ c.toNat ∧ c.toNat ≤ 90 then c.toNat + 32 else c.toNat := by
  have hval : c.val.toNat = c.toNat := rfl
  have hcapital : (c.val ≥ 'A'.val ∧ c.val ≤ 'Z'.val) ↔ 65 ≤ c.toNat ∧ c.toNat ≤ 90 := by
    rw [ge_iff_le, UInt32.le_iff_toNat_le, UInt32.le_iff_toNat_le, hval]
    rfl
  delta Char.toLower
  split
  · rename_i h
    obtain ⟨hlow, hhigh⟩ := hcapital.1 h
    rw [if_pos ⟨hlow, hhigh⟩]
    show (c.val + ('a'.val - 'A'.val)).toNat = _
    rw [UInt32.toNat_add, hval]
    show (c.toNat + 32) % 2 ^ 32 = _
    omega
  · rename_i h
    rw [if_neg (mt hcapital.2 h)]

theorem toLower_toLower (c : Char) : c.toLower.toLower = c.toLower := by
  refine Char.toNat_inj.1 ?_
  rw [toNat_toLower c.toLower, if_neg]
  rw [toNat_toLower]
  split <;> omega

/-- A character that is no letter is not the lower case of another one. -/
theorem toLower_eq_iff {c mark : Char}
    (h : mark.toNat < 65 ∨ 90 < mark.toNat ∧ mark.toNat < 97) : c.toLower = mark ↔ c = mark := by
  rw [← Char.toNat_inj, ← Char.toNat_inj, toNat_toLower]
  split <;> omega

/-- No blank is a letter. -/
theorem isBlank_toLower (c : Char) : Text.isBlank c.toLower = Text.isBlank c := by
  have hletter : ∀ d : Char, 65 ≤ d.toNat → d.toNat ≤ 122 → Text.isBlank d = false := by
    intro d hlow hhigh
    have hwide : (Text.wideBlanks.all fun w => 122 < w.toNat) = true := by decide
    rw [Text.isBlank, Bool.or_eq_false_iff, Bool.or_eq_false_iff]
    refine ⟨⟨?_, ?_⟩, ?_⟩
    · refine decide_eq_false ?_
      rintro rfl
      exact absurd hlow (by decide)
    · rw [Bool.and_eq_false_iff]
      exact Or.inr (decide_eq_false (by omega))
    · refine Bool.eq_false_iff.2 fun hmem => ?_
      have hbeyond := List.all_eq_true.1 hwide d (List.contains_iff_mem.1 hmem)
      rw [decide_eq_true_eq] at hbeyond
      omega
  by_cases hcapital : 65 ≤ c.toNat ∧ c.toNat ≤ 90
  · have hlower : c.toLower.toNat = c.toNat + 32 := by rw [toNat_toLower, if_pos hcapital]
    rw [hletter c (by omega) (by omega), hletter c.toLower (by omega) (by omega)]
  · have hsame : c.toLower = c :=
      Char.toNat_inj.1 (by rw [toNat_toLower, if_neg hcapital])
    rw [hsame]

/-! ## Reading a name in lower case -/

namespace Text

theorem trim_map_toLower (cs : List Char) :
    trim (cs.map Char.toLower) = (trim cs).map Char.toLower := by
  have hblank : isBlank ∘ Char.toLower = isBlank := funext isBlank_toLower
  rw [trim, trim, trimStart, trimStart, List.dropWhile_map, hblank, ← List.map_reverse, trimStart,
    List.dropWhile_map, hblank, ← List.map_reverse, trimStart]

theorem trim_sublist (cs : List Char) : (trim cs).Sublist cs := by
  rw [trim, ← List.reverse_reverse cs]
  refine List.Sublist.reverse ?_
  rw [List.reverse_reverse]
  exact (List.dropWhile_sublist _).trans (List.Sublist.reverse (List.dropWhile_sublist _))

/-- A text is trimmed if it is so in another case. -/
theorem trim_eq_self_of_map_toLower {cs other : List Char}
    (h : cs.map Char.toLower = other.map Char.toLower) (hother : trim other = other) :
    trim cs = cs := by
  refine (trim_sublist cs).eq_of_length ?_
  have hmap : (trim cs).map Char.toLower = cs.map Char.toLower := by
    rw [← trim_map_toLower, h, trim_map_toLower, hother]
  simpa using congrArg List.length hmap

/-- A text without blanks at its ends is trimmed. -/
theorem trim_eq_self {cs : List Char} (hfirst : ∀ c ∈ cs.head?, isBlank c = false)
    (hlast : ∀ c ∈ cs.getLast?, isBlank c = false) : trim cs = cs := by
  have hstart : ∀ cs : List Char, (∀ c ∈ cs.head?, isBlank c = false) → trimStart cs = cs := by
    intro cs h
    cases cs with
    | nil => rfl
    | cons c rest =>
      have hc : isBlank c = false := h c rfl
      rw [trimStart, List.dropWhile_cons, hc]
      rfl
  rw [trim, hstart cs hfirst, hstart cs.reverse (by rw [List.head?_reverse]; exact hlast),
    List.reverse_reverse]

end Text

namespace Environment

theorem pointed_map_toLower (cs : List Char) :
    pointed (cs.map Char.toLower) = (pointed cs).map Char.toLower := by
  induction cs using pointed.induct with
  | case1 rest ih =>
    show '.' :: pointed (rest.map Char.toLower) = _
    rw [ih]
    rfl
  | case2 c rest hmark ih =>
    have hcs : pointed (c :: rest) = c :: pointed rest := by
      rw [pointed]
      exact hmark
    rw [hcs, List.map_cons, List.map_cons, ← ih, pointed]
    -- the lowered text starts with two underscores only if the text does
    intro tail hc hrest
    rw [toLower_eq_iff (by decide)] at hc
    obtain ⟨d, others, rfl, hd, -⟩ := List.map_eq_cons_iff.1 hrest
    rw [toLower_eq_iff (by decide)] at hd
    exact hmark others hc (by rw [hd])
  | case3 => rfl

theorem splitPoints_map_toLower (cs : List Char) :
    splitPoints (cs.map Char.toLower) = (splitPoints cs).map (List.map Char.toLower) := by
  induction cs with
  | nil => rfl
  | cons c rest ih =>
    rw [List.map_cons, splitPoints, splitPoints, ih]
    by_cases hpoint : c = '.'
    · rw [if_pos hpoint, if_pos ((toLower_eq_iff (by decide)).2 hpoint)]
      rfl
    · rw [if_neg hpoint, if_neg (mt (toLower_eq_iff (by decide)).1 hpoint)]
      cases splitPoints rest <;> rfl

/-- The keys are the same if the letters of the name are lowered before. -/
theorem keysOf?_map_toLower (cs : List Char) : keysOf? (cs.map Char.toLower) = keysOf? cs := by
  rw [keysOf?, keysOf?, pointed_map_toLower, Text.trim_map_toLower, splitPoints_map_toLower]
  have hempty : (fun part : List Char => decide (part = [])) ∘ List.map Char.toLower
      = fun part => decide (part = []) := by
    funext part
    simp
  have hkeys : (fun part : List Char => String.ofList (part.map Char.toLower))
      ∘ List.map Char.toLower = fun part => String.ofList (part.map Char.toLower) := by
    funext part
    have htwice : Char.toLower ∘ Char.toLower = Char.toLower := funext toLower_toLower
    rw [Function.comp_apply, List.map_map, htwice]
  simp only [List.any_map, List.map_map, hempty, hkeys]

theorem dropStart?_append {start front : List Char}
    (h : front.map Char.toLower = start.map Char.toLower) (rest : List Char) :
    dropStart? start (front ++ rest) = some rest := by
  induction start generalizing front with
  | nil =>
    obtain rfl := List.map_eq_nil_iff.1 h
    rfl
  | cons p others ih =>
    obtain ⟨c, cs, rfl, hc, hcs⟩ := List.map_eq_cons_iff.1 h
    rw [List.cons_append, dropStart?, if_pos hc.symm, ih hcs]

/-- The name of a variable for a setting. -/
def nameOf (namePrefix : String) (s : Setting) : String :=
  namePrefix ++ nameSeparator ++ (s.sectionName ++ nameSeparator ++ s.key)

/-- **Section and key name a setting**, in whatever case. -/
theorem path?_of_spelled {namePrefix name : String} {s : Setting}
    (hlead : ∀ c ∈ namePrefix.toList.head?, Text.isBlank c = false)
    (h : name.toList.map Char.toLower = (nameOf namePrefix s).toList.map Char.toLower) :
    path? namePrefix name = some s.path := by
  rw [nameOf, String.toList_append, List.map_append] at h
  obtain ⟨front, rest, hname, hfront, hrest⟩ := List.map_eq_append_iff.1 h
  have hkeys : keysOf? rest = some s.path := by
    rw [← keysOf?_map_toLower, hrest, keysOf?_map_toLower]
    cases s <;> decide
  have htrim : Text.trim name.toList = name.toList := by
    refine Text.trim_eq_self_of_map_toLower (h.trans List.map_append.symm) ?_
    refine Text.trim_eq_self ?_ ?_
    · intro c hc
      cases hletters : namePrefix.toList with
      | nil =>
        rw [String.toList_append, hletters] at hc
        obtain rfl : '_' = c := Option.some.inj hc
        decide
      | cons d others =>
        rw [String.toList_append, hletters] at hc
        obtain rfl : d = c := Option.some.inj hc
        exact hlead d (by rw [hletters]; rfl)
    · intro c hc
      have hlast : ∃ d, (s.sectionName ++ nameSeparator ++ s.key).toList.getLast? = some d
          ∧ Text.isBlank d = false := by
        cases s <;> exact ⟨_, rfl, by decide⟩
      obtain ⟨d, hd, hblank⟩ := hlast
      rw [List.getLast?_append, hd] at hc
      obtain rfl : d = c := Option.some.inj hc
      exact hblank
  rw [path?, htrim, hname, dropStart?_append hfront, Option.bind_some, hkeys]

end Environment

end UnitBinding
