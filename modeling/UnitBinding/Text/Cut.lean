import UnitBinding.Text.Quoted

set_option autoImplicit false

/-! # Texts cut at byte positions

A position in a text counts the bytes before it, a character taking one to four of them. A text can be
cut between two characters only; a cut inside of one is a fault that tells the position, the character
and the bytes that it takes. `split` cuts a text in two, and `slice` takes the part between two
positions. -/

namespace UnitBinding.Text

/-- The number of bytes of a text. -/
def byteLength (cs : List Char) : Nat := cs.foldr (fun c bytes => c.utf8Size + bytes) 0

@[simp] theorem byteLength_nil : byteLength [] = 0 := rfl

@[simp] theorem byteLength_cons (c : Char) (cs : List Char) :
    byteLength (c :: cs) = c.utf8Size + byteLength cs := rfl

@[simp] theorem byteLength_append (a b : List Char) :
    byteLength (a ++ b) = byteLength a + byteLength b := by
  induction a with
  | nil => simp
  | cons c rest ih => rw [List.cons_append, byteLength_cons, byteLength_cons, ih, Nat.add_assoc]

/-- A text has at least as many bytes as characters. -/
theorem length_le_byteLength (cs : List Char) : cs.length ≤ byteLength cs := by
  induction cs with
  | nil => simp
  | cons c rest ih =>
    have := c.utf8Size_pos
    simp only [byteLength_cons, List.length_cons]
    omega

/-! ## Faults -/

/-- Which end of a part a cut makes. -/
inductive CutSide where
  | start
  | stop
  deriving DecidableEq, Inhabited

/-- The name of an end. -/
def CutSide.name : CutSide → String
  | .start => "start"
  | .stop => "end"

/-- A cut inside of a character. -/
structure CutFault where
  side : CutSide
  position : Nat
  char : Char
  /-- Where the character starts. -/
  first : Nat
  deriving DecidableEq, Inhabited

/-- The wording of a fault. Every character of more than one byte is shown as in quoted text. -/
def CutFault.message (fault : CutFault) : String :=
  fault.side.name ++ " byte index " ++ toString fault.position
    ++ " is not a char boundary; it is inside '" ++ String.ofList (escape fault.char)
    ++ "' (bytes " ++ toString fault.first ++ ".."
    ++ toString (fault.first + fault.char.utf8Size) ++ " of string)"

/-- Why a text could not be read: it has not the form that is asked for, or it was cut inside of a
    character on the way. -/
inductive ReadFault where
  | malformed
  | cut (fault : CutFault)
  deriving DecidableEq, Inhabited

/-- What reading a text gives. -/
abbrev Reading (α : Type) := Except ReadFault α

/-- A reading that gives nothing but for its form. -/
def Reading.ofOption {α : Type} : Option α → Reading α
  | some value => .ok value
  | none => .error .malformed

/-! ## Cuts -/

/-- Cut a text that starts at position `here`. A position past the end is the end. -/
def splitFrom (side : CutSide) (position : Nat) :
    Nat → List Char → Reading (List Char × List Char)
  | _, [] => .ok ([], [])
  | here, c :: rest =>
    if position ≤ here then .ok ([], c :: rest)
    else if position < here + c.utf8Size then .error (.cut ⟨side, position, c, here⟩)
    else (splitFrom side position (here + c.utf8Size) rest).map fun r => (c :: r.1, r.2)

/-- Cut a text in two. -/
def split (side : CutSide) (position : Nat) (cs : List Char) : Reading (List Char × List Char) :=
  splitFrom side position 0 cs

/-- The part of a text between two positions. -/
def slice (cs : List Char) (start stop : Nat) : Reading (List Char) := do
  let (before, _) ← split .start start cs
  let (upTo, _) ← split .stop stop cs
  return upTo.drop before.length

/-- The part of a text behind a position. -/
def sliceFrom (cs : List Char) (start : Nat) : Reading (List Char) :=
  (split .start start cs).map Prod.snd

/-! ## Laws -/

/-- A cut loses nothing. -/
theorem append_of_splitFrom {side : CutSide} {position here : Nat} {cs a b : List Char}
    (h : splitFrom side position here cs = .ok (a, b)) : a ++ b = cs := by
  induction cs generalizing here a b with
  | nil => simp [splitFrom] at h; simp [h]
  | cons c rest ih =>
    unfold splitFrom at h
    split at h
    · simp at h; simp [h]
    · split at h
      · simp at h
      · cases hr : splitFrom side position (here + c.utf8Size) rest with
        | error fault => simp [hr, Except.map] at h
        | ok r =>
          simp only [hr, Except.map, Except.ok.injEq, Prod.mk.injEq] at h
          obtain ⟨rfl, rfl⟩ := h
          simp [ih hr]

/-- Both parts of a cut make up the text. -/
theorem append_of_split {side : CutSide} {position : Nat} {cs a b : List Char}
    (h : split side position cs = .ok (a, b)) : a ++ b = cs := append_of_splitFrom h

/-- The end of a text can always be cut off behind its last character. -/
theorem splitFrom_byteLength (side : CutSide) (here : Nat) (cs : List Char) :
    splitFrom side (here + byteLength cs) here cs = .ok (cs, []) := by
  induction cs generalizing here with
  | nil => simp [splitFrom]
  | cons c rest ih =>
    have hc : 0 < c.utf8Size := c.utf8Size_pos
    have hlen := byteLength_cons c rest
    have h₁ : ¬ here + byteLength (c :: rest) ≤ here := by omega
    have h₂ : ¬ here + byteLength (c :: rest) < here + c.utf8Size := by omega
    rw [splitFrom, if_neg h₁, if_neg h₂, hlen, ← Nat.add_assoc, ih]
    rfl

end UnitBinding.Text
