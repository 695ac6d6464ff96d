import Mathlib.Data.List.Infix
import UnitBinding.Toml.Quoted
import UnitBinding.Toml.Style

set_option autoImplicit false

/-! # Quoted text is read as it was written

Whatever a text consists of, `renderText` writes it in a form from which `readString?` reads the text
itself, and stops right behind the closing quotes (`readString?_renderText`).

On one line this goes character by character: an escape is read as its character, and everything else as
itself. Between tripled quotes there is the closing to consider. A reader that meets three quotes takes up
to two more for quotes of the text, so a text that ends in one or two quotes is closed before its own end;
its last quotes are put back then. What must not happen is that three quotes of the text stand in a row,
and either the form was chosen so, or the third one is written as an escape. -/

namespace UnitBinding.Toml

open Text (hexValue? hexValue?_upperHexDigit upperHexDigit)

/-! ## Single characters -/

theorem not_isControl_of_writable {c : Char} (h : isUnwritable c = false) (hline : c ≠ '\n') :
    isControl c = false := by
  simpa [isUnwritable, hline] using h

theorem ne_return_of_writable {c : Char} (h : isUnwritable c = false) : c ≠ '\r' := by
  rintro rfl
  revert h
  decide

/-- A control character has a code of two digits. -/
theorem toNat_lt_of_isControl {c : Char} (h : isControl c = true) : c.toNat < 256 := by
  simp only [isControl, Bool.or_eq_true, Bool.and_eq_true, decide_eq_true_eq] at h
  omega

@[simp] theorem keep_some (c : Char) (cs rest : List Char) :
    keep c (some (cs, rest)) = some (c :: cs, rest) := rfl

/-! ## Closing quotes -/

section Closing

variable {quote : Char} (hquote : quote ≠ '\n') (rest : List Char)
include hquote

/-- Nothing is put back without a further quote. -/
theorem closeTripled_none : closeTripled quote ('\n' :: rest) = ([], '\n' :: rest) := by
  cases rest <;> simp [closeTripled, hquote.symm]

theorem closeTripled_one :
    closeTripled quote (quote :: '\n' :: rest) = ([quote], '\n' :: rest) := by
  simp [closeTripled, hquote.symm]

end Closing

theorem closeTripled_two (quote : Char) (rest : List Char) :
    closeTripled quote (quote :: quote :: rest) = ([quote, quote], rest) := by
  simp [closeTripled]

theorem startsTwice_cons_of_ne {quote c : Char} (h : c ≠ quote) (rest : List Char) :
    startsTwice quote (c :: rest) = false := by
  cases rest <;> simp [startsTwice, h]

theorem startsTwice_cons_cons_of_ne {quote d : Char} (c : Char) (h : d ≠ quote)
    (rest : List Char) : startsTwice quote (c :: d :: rest) = false := by
  simp [startsTwice, h]

/-! ## Runs of quotes -/

/-- The counter behind `longestRun`: the run so far, and the longest one. -/
def countRun (quote : Char) (run : Nat × Nat) (c : Char) : Nat × Nat :=
  if c = quote then (run.1 + 1, max run.2 (run.1 + 1)) else (0, run.2)

theorem longestRun_eq (quote : Char) (cs : List Char) :
    longestRun quote cs = (cs.foldl (countRun quote) (0, 0)).2 := rfl

/-- The longest run never gets shorter. -/
theorem le_foldl_countRun (quote : Char) (cs : List Char) (run : Nat × Nat) :
    run.2 ≤ (cs.foldl (countRun quote) run).2 := by
  induction cs generalizing run with
  | nil => exact Nat.le_refl _
  | cons c cs ih =>
    refine Nat.le_trans ?_ (ih (countRun quote run c))
    rw [countRun]
    split
    · exact Nat.le_max_left _ _
    · exact Nat.le_refl _

/-- A text without a run of three quotes has no three quotes in a row. -/
theorem no_triple_of_longestRun {quote : Char} {cs : List Char} (h : longestRun quote cs ≤ 2) :
    ¬ [quote, quote, quote] <:+: cs := by
  rintro ⟨front, back, rfl⟩
  rw [longestRun_eq, List.foldl_append, List.foldl_append] at h
  have hback := le_foldl_countRun quote back
    ([quote, quote, quote].foldl (countRun quote) (front.foldl (countRun quote) (0, 0)))
  have hthree : 3 ≤ ([quote, quote, quote].foldl (countRun quote)
      (front.foldl (countRun quote) (0, 0))).2 := by
    simp only [List.foldl_cons, List.foldl_nil, countRun, if_true]
    omega
  omega

/-! ## Between single quotes -/

theorem readLiteral_cons {tripled : Bool} {c : Char} (hwritable : isUnwritable c = false)
    (hquote : c ≠ '\'') (hline : c = '\n' → tripled = true) (rest : List Char) :
    readLiteral tripled (c :: rest) = keep c (readLiteral tripled rest) := by
  rw [readLiteral, if_neg hquote]
  by_cases hc : c = '\n'
  · rw [if_pos hc, if_pos (hline hc)]
  · rw [if_neg hc, if_neg (ne_return_of_writable hwritable),
      not_isControl_of_writable hwritable hc]
    rfl

/-- A literal text on one line. -/
theorem readLiteral_line {cs : List Char} (hwritable : ∀ c ∈ cs, isUnwritable c = false)
    (hquote : '\'' ∉ cs) (hline : '\n' ∉ cs) (rest : List Char) :
    readLiteral false (cs ++ '\'' :: rest) = some (cs, rest) := by
  induction cs with
  | nil => rfl
  | cons c cs ih =>
    rw [List.mem_cons, not_or] at hquote hline
    rw [List.cons_append, readLiteral_cons (hwritable c List.mem_cons_self) (Ne.symm hquote.1)
      (fun hc => absurd hc.symm hline.1),
      ih (fun d hd => hwritable d (List.mem_cons_of_mem _ hd)) hquote.2 hline.2, keep_some]

/-- A literal text of several lines. The induction looks two characters ahead, where the text may end. -/
theorem readLiteral_lines {cs : List Char} (hwritable : ∀ c ∈ cs, isUnwritable c = false)
    (hruns : ¬ ['\'', '\'', '\''] <:+: cs) (rest : List Char) :
    readLiteral true (cs ++ '\'' :: '\'' :: '\'' :: '\n' :: rest) = some (cs, '\n' :: rest) := by
  induction cs with
  | nil =>
    have hclose := closeTripled_none (by decide : '\'' ≠ '\n') rest
    show some (closeTripled '\'' ('\n' :: rest)) = _
    rw [hclose]
  | cons c cs ih =>
    have hrest := ih (fun d hd => hwritable d (List.mem_cons_of_mem _ hd))
      fun htriple => hruns (htriple.trans (List.suffix_cons c cs).isInfix)
    by_cases hquote : c = '\''
    · subst hquote
      cases htwice : startsTwice '\'' (cs ++ '\'' :: '\'' :: '\'' :: '\n' :: rest) with
      | false =>
        rw [List.cons_append, readLiteral, htwice, hrest]
        rfl
      | true =>
        -- two more quotes follow, so the text ends with this quote or the next one
        rw [List.cons_append, readLiteral, htwice]
        match cs, hruns, htwice with
        | [], _, _ =>
          exact congrArg some (closeTripled_one (by decide) rest)
        | [d], _, htwice =>
          obtain rfl : d = '\'' := by
            by_contra hd
            rw [List.singleton_append, startsTwice_cons_of_ne hd] at htwice
            cases htwice
          exact congrArg some (closeTripled_two '\'' ('\n' :: rest))
        | d :: e :: more, hruns, htwice =>
          simp only [List.cons_append, startsTwice, Bool.and_eq_true, decide_eq_true_eq] at htwice
          obtain ⟨rfl, rfl⟩ := htwice
          exact absurd (List.prefix_append _ more).isInfix hruns
    · rw [List.cons_append, readLiteral_cons (hwritable c List.mem_cons_self) hquote fun _ => rfl,
        hrest, keep_some]

/-! ## Escapes -/

/-- A numeric escape is read as its character. -/
theorem readEscaped_numericEscape (tripled : Bool) {c : Char} (h : c.toNat < 256)
    (rest : List Char) :
    readEscaped tripled .text (numericEscape c ++ rest)
      = keep c (readEscaped tripled .text rest) := by
  have hhigh : hexValue? (upperHexDigit (c.toNat / 16)) = some (c.toNat / 16) :=
    hexValue?_upperHexDigit (by omega)
  have hlow : hexValue? (upperHexDigit (c.toNat % 16)) = some (c.toNat % 16) :=
    hexValue?_upperHexDigit (by omega)
  have hvalue : 16 * (c.toNat / 16) + c.toNat % 16 = c.toNat := Nat.div_add_mod _ _
  have hchar : charOfCode? c.toNat = some c := by
    rw [charOfCode?, if_pos (show c.toNat.isValidChar from c.valid), Char.ofNat_toNat]
  -- the first two digits are zeros
  have hstart : readEscaped tripled .text (numericEscape c ++ rest)
      = readEscaped tripled (.code 2 0)
        (upperHexDigit (c.toNat / 16) :: upperHexDigit (c.toNat % 16) :: rest) := rfl
  rw [hstart]
  simp [readEscaped, hhigh, hlow, hvalue, hchar]

/-- A character that stands for itself. -/
theorem readEscaped_cons {tripled : Bool} {c : Char} (hquote : c ≠ '"') (hslash : c ≠ '\\')
    (hline : c ≠ '\n') (hwritable : isUnwritable c = false) (rest : List Char) :
    readEscaped tripled .text (c :: rest) = keep c (readEscaped tripled .text rest) := by
  simp [readEscaped, hquote, hslash, hline, ne_return_of_writable hwritable,
    not_isControl_of_writable hwritable hline]

/-- A character other than the quote is read as itself, escaped or not. -/
theorem readEscaped_escape (tripled : Bool) {c : Char} (hquote : c ≠ '"') (rest : List Char) :
    readEscaped tripled .text (escape tripled c ++ rest)
      = keep c (readEscaped tripled .text rest) := by
  rw [escape]
  split_ifs with hslash hback htab hfeed hreturn hline htripled hunwritable
  · subst hslash; rfl
  · subst hback; rfl
  · subst htab; rfl
  · subst hfeed; rfl
  · subst hreturn; rfl
  · subst hline htripled; rfl
  · subst hline; rfl
  · refine readEscaped_numericEscape tripled (toNat_lt_of_isControl ?_) rest
    rw [isUnwritable, Bool.and_eq_true] at hunwritable
    exact hunwritable.1
  · exact readEscaped_cons hquote hslash hline (Bool.eq_false_iff.2 hunwritable) rest

/-- An escaped quote. -/
theorem readEscaped_quote (tripled : Bool) (rest : List Char) :
    readEscaped tripled .text ('\\' :: '"' :: rest)
      = keep '"' (readEscaped tripled .text rest) := rfl

/-- What a character is written as starts with a backslash or with the character. -/
theorem head_escape (tripled : Bool) {c : Char} (hquote : c ≠ '"') (rest : List Char) :
    ∃ d more, escape tripled c ++ rest = d :: more ∧ d ≠ '"' ∧ d ≠ '\r' ∧ (d = '\n' → c = '\n') := by
  have hslash : '\\' = '\n' → c = '\n' := fun h => absurd h (by decide)
  rw [escape]
  split_ifs with h₁ h₂ h₃ h₄ hreturn hline
  · exact ⟨_, _, rfl, by decide, by decide, hslash⟩
  · exact ⟨_, _, rfl, by decide, by decide, hslash⟩
  · exact ⟨_, _, rfl, by decide, by decide, hslash⟩
  · exact ⟨_, _, rfl, by decide, by decide, hslash⟩
  · exact ⟨_, _, rfl, by decide, by decide, hslash⟩
  · exact ⟨_, _, rfl, by decide, by decide, fun _ => hline⟩
  · exact ⟨_, _, rfl, by decide, by decide, hslash⟩
  · exact ⟨_, _, rfl, by decide, by decide, hslash⟩
  · exact ⟨_, _, rfl, hquote, hreturn, id⟩

/-- A text is written with a raw quote in front only between tripled quotes, behind less than two raw
    quotes. -/
theorem head_escapeAll (tripled : Bool) (c : Char) (quotes : Nat)
    (h : c = '"' → tripled = true → 2 ≤ quotes) (cs rest : List Char) :
    ∃ d more, escapeAll tripled quotes (c :: cs) ++ rest = d :: more ∧ d ≠ '"' := by
  rw [escapeAll]
  by_cases hquote : c = '"'
  · have hfull : ¬ (tripled && decide (quotes < 2)) = true := by
      rw [Bool.and_eq_true, decide_eq_true_eq]
      rintro ⟨htripled, hroom⟩
      exact Nat.not_lt.2 (h hquote htripled) hroom
    rw [if_pos hquote, if_neg hfull]
    exact ⟨_, _, rfl, by decide⟩
  · rw [if_neg hquote, List.append_assoc]
    obtain ⟨d, more, heq, hd, -⟩ := head_escape tripled hquote
      (escapeAll tripled 0 cs ++ rest)
    exact ⟨d, more, heq, hd⟩

/-! ## Between double quotes -/

/-- An escaped text on one line. -/
theorem readEscaped_line (cs rest : List Char) (quotes : Nat) :
    readEscaped false .text (escapeAll false quotes cs ++ '"' :: rest) = some (cs, rest) := by
  induction cs generalizing quotes with
  | nil => rfl
  | cons c cs ih =>
    rw [escapeAll]
    by_cases hquote : c = '"'
    · subst hquote
      rw [if_pos rfl, if_neg (by simp), List.cons_append, List.cons_append, readEscaped_quote, ih,
        keep_some]
    · rw [if_neg hquote, List.append_assoc, readEscaped_escape false hquote, ih, keep_some]

/-- A quote that stands as it is, not followed by two more. -/
theorem readEscaped_raw {rest : List Char} (h : startsTwice '"' rest = false) :
    readEscaped true .text ('"' :: rest) = keep '"' (readEscaped true .text rest) := by
  simp [readEscaped, h]

/-- Three quotes. -/
theorem readEscaped_close (rest : List Char) :
    readEscaped true .text ('"' :: '"' :: '"' :: rest) = some (closeTripled '"' rest) := by
  simp [readEscaped, startsTwice]

/-- Behind a raw quote two more follow only at the end of the text, or in front of a last quote. -/
theorem eq_of_startsTwice {cs rest : List Char} {quotes : Nat}
    (h : startsTwice '"' (escapeAll true (quotes + 1) cs ++ '"' :: '"' :: '"' :: rest) = true) :
    cs = [] ∨ cs = ['"'] ∧ quotes = 0 := by
  cases cs with
  | nil => exact Or.inl rfl
  | cons c cs =>
    by_cases hc : c = '"' → 2 ≤ quotes + 1
    · obtain ⟨d, more, heq, hd⟩ :=
        head_escapeAll true c (quotes + 1) (fun hquote _ => hc hquote) cs ('"' :: '"' :: '"' :: rest)
      rw [heq, startsTwice_cons_of_ne hd] at h
      cases h
    · obtain ⟨rfl, hfirst⟩ := Classical.not_imp.1 hc
      obtain rfl : quotes = 0 := by omega
      cases cs with
      | nil => exact Or.inr ⟨rfl, rfl⟩
      | cons e es =>
        obtain ⟨d, more, heq, hd⟩ := head_escapeAll true e 2
          (fun _ _ => Nat.le_refl 2) es ('"' :: '"' :: '"' :: rest)
        rw [escapeAll, if_pos rfl, if_pos (by decide), List.cons_append, heq,
          startsTwice_cons_cons_of_ne _ hd] at h
        cases h

/-- An escaped text of several lines. The counter says how many quotes were just written as they are. -/
theorem readEscaped_lines (cs rest : List Char) (quotes : Nat) :
    readEscaped true .text (escapeAll true quotes cs ++ '"' :: '"' :: '"' :: '\n' :: rest)
      = some (cs, '\n' :: rest) := by
  induction cs generalizing quotes with
  | nil => exact (readEscaped_close _).trans (congrArg some (closeTripled_none (by decide) rest))
  | cons c cs ih =>
    by_cases hquote : c = '"'
    · subst hquote
      rw [escapeAll, if_pos rfl]
      by_cases hroom : quotes < 2
      · rw [if_pos (by simpa using hroom), List.cons_append]
        cases htwice : startsTwice '"'
            (escapeAll true (quotes + 1) cs ++ '"' :: '"' :: '"' :: '\n' :: rest) with
        | false => rw [readEscaped_raw htwice, ih, keep_some]
        | true =>
          -- the reader takes this quote for the first closing one
          rcases eq_of_startsTwice htwice with rfl | ⟨rfl, rfl⟩
          · exact (readEscaped_close _).trans (congrArg some (closeTripled_one (by decide) rest))
          · exact (readEscaped_close _).trans
              (congrArg some (closeTripled_two '"' ('\n' :: rest)))
      · rw [if_neg (by simpa using hroom), List.cons_append, List.cons_append, readEscaped_quote, ih,
          keep_some]
    · rw [escapeAll, if_neg hquote, List.append_assoc, readEscaped_escape true hquote, ih, keep_some]

/-! ## All four forms -/

/-- One quote that is not followed by two more opens a text on one line. -/
theorem readString?_single {quote : Char} {rest : List Char}
    (h : startsTwice quote rest = false) :
    readString? (quote :: rest) = readLineString? (quote :: rest) := by
  match rest, h with
  | [], _ => simp only [readString?]
  | [c], _ => simp only [readString?]
  | c :: d :: more, h =>
    rw [readString?]
    · rintro tail heq
      simp only [List.cons.injEq] at heq
      obtain ⟨rfl, rfl, rfl, rfl⟩ := heq
      simp [startsTwice] at h
    · rintro tail heq
      simp only [List.cons.injEq] at heq
      obtain ⟨rfl, rfl, rfl, rfl⟩ := heq
      simp [startsTwice] at h

/-- An escaped text on one line does not look tripled where it opens. -/
theorem startsTwice_escapeAll (cs rest : List Char) :
    startsTwice '"' (escapeAll false 0 cs ++ '"' :: '\n' :: rest) = false := by
  cases cs with
  | nil => exact startsTwice_cons_cons_of_ne '"' (by decide) rest
  | cons c cs =>
    obtain ⟨d, more, heq, hd⟩ := head_escapeAll false c 0 (fun _ h => by cases h) cs
      ('"' :: '\n' :: rest)
    rw [heq, startsTwice_cons_of_ne hd]

/-- Nor does a literal text on one line. -/
theorem startsTwice_literal {cs : List Char} (hquote : '\'' ∉ cs) (rest : List Char) :
    startsTwice '\'' (cs ++ '\'' :: '\n' :: rest) = false := by
  cases cs with
  | nil => exact startsTwice_cons_cons_of_ne '\'' (by decide) rest
  | cons c cs =>
    rw [List.mem_cons, not_or] at hquote
    exact startsTwice_cons_of_ne (Ne.symm hquote.1) _

theorem newline?_cons_of_ne {c : Char} (hfeed : c ≠ '\n') (hreturn : c ≠ '\r')
    (rest : List Char) : newline? (c :: rest) = none := by
  rw [newline?]
  · intro tail heq
    exact hfeed (List.cons.inj heq).1
  · intro tail heq
    exact hreturn (List.cons.inj heq).1

/-- What stands behind opening tripled quotes is read from its first character on. -/
theorem skipNewline_openingLine {cs written : List Char}
    (h : '\n' ∉ cs → ∀ c ∈ written.head?, c ≠ '\n' ∧ c ≠ '\r') :
    skipNewline (openingLine cs ++ written) = written := by
  rw [openingLine]
  by_cases hline : '\n' ∈ cs
  · simp [hline, skipNewline, newline?]
  · rw [if_neg (by simpa using hline), List.nil_append, skipNewline]
    have hhead := h hline
    match written, hhead with
    | [], _ => rfl
    | c :: more, hhead =>
      obtain ⟨hfeed, hreturn⟩ := hhead c rfl
      rw [newline?_cons_of_ne hfeed hreturn]
      rfl

/-- An escaped text without line ends does not start with one. -/
theorem head?_escapeAll {cs : List Char} (hline : '\n' ∉ cs) (rest : List Char) :
    ∀ d ∈ (escapeAll true 0 cs ++ '"' :: rest).head?, d ≠ '\n' ∧ d ≠ '\r' := by
  intro d hd
  cases cs with
  | nil =>
    obtain rfl := Option.some.inj hd
    decide
  | cons c cs =>
    by_cases hquote : c = '"'
    · subst hquote
      obtain rfl := Option.some.inj hd
      decide
    · rw [escapeAll, if_neg hquote, List.append_assoc] at hd
      obtain ⟨e, more, heq, -, hreturn, hfeed⟩ := head_escape true hquote
        (escapeAll true 0 cs ++ '"' :: rest)
      rw [heq] at hd
      obtain rfl := Option.some.inj hd
      exact ⟨fun h => hline (hfeed h ▸ List.mem_cons_self), hreturn⟩

/-- Nor does a literal text. -/
theorem head?_literal {cs : List Char} (hwritable : ∀ c ∈ cs, isUnwritable c = false)
    (hline : '\n' ∉ cs) (rest : List Char) :
    ∀ d ∈ (cs ++ '\'' :: rest).head?, d ≠ '\n' ∧ d ≠ '\r' := by
  intro d hd
  cases cs with
  | nil =>
    obtain rfl := Option.some.inj hd
    decide
  | cons c cs =>
    obtain rfl := Option.some.inj hd
    exact ⟨fun h => hline (h ▸ List.mem_cons_self),
      ne_return_of_writable (hwritable c List.mem_cons_self)⟩

theorem fitsLiteral_of_styleOf {cs : List Char} (h : styleOf cs = .literal) :
    fitsLiteral cs = true := by
  by_contra hfits
  rw [styleOf, if_neg hfits] at h
  split_ifs at h

theorem fitsTripledLiteral_of_styleOf {cs : List Char} (h : styleOf cs = .tripledLiteral) :
    fitsTripledLiteral cs = true := by
  by_contra hfits
  rw [styleOf, if_neg hfits] at h
  split_ifs at h

/-- **A written text is read as it was**, up to the end of its line. -/
theorem readString?_renderText (cs rest : List Char) :
    readString? (renderText cs ++ '\n' :: rest) = some (cs, '\n' :: rest) := by
  rw [renderText]
  cases hstyle : styleOf cs with
  | basic =>
    simp only [List.cons_append, List.append_assoc, List.nil_append]
    rw [readString?_single (startsTwice_escapeAll cs rest)]
    exact readEscaped_line cs ('\n' :: rest) 0
  | literal =>
    have hfits := fitsLiteral_of_styleOf hstyle
    simp only [fitsLiteral, Bool.and_eq_true, Bool.not_eq_true', List.contains_eq_mem,
      decide_eq_false_iff_not, List.any_eq_false] at hfits
    obtain ⟨⟨hwritable, hquote⟩, hline⟩ := hfits
    simp only [List.cons_append, List.append_assoc, List.nil_append]
    rw [readString?_single (startsTwice_literal hquote rest)]
    exact readLiteral_line (fun c hc => Bool.eq_false_iff.2 (hwritable c hc)) hquote hline _
  | tripledBasic =>
    simp only [List.cons_append, List.append_assoc, List.nil_append, readString?]
    rw [skipNewline_openingLine fun hline => head?_escapeAll hline _, readEscaped_lines]
  | tripledLiteral =>
    have hfits := fitsTripledLiteral_of_styleOf hstyle
    simp only [fitsTripledLiteral, Bool.and_eq_true, Bool.not_eq_true', List.any_eq_false,
      decide_eq_true_eq] at hfits
    obtain ⟨hwritable, hruns⟩ := hfits
    replace hwritable := fun c hc => Bool.eq_false_iff.2 (hwritable c hc)
    simp only [List.cons_append, List.append_assoc, List.nil_append, readString?]
    rw [skipNewline_openingLine fun hline => head?_literal hwritable hline _,
      readLiteral_lines hwritable (no_triple_of_longestRun hruns)]

end UnitBinding.Toml
