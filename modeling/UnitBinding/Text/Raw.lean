import UnitBinding.Text.Quoted

set_option autoImplicit false

/-! # Raw texts

What the system keeps, names of files and files alike, consists of bytes, which may or may not be the
UTF-8 form of a text. `RawText.ofText` and `RawText.text?` go from texts to bytes and back. Bytes that
are no text are shown with a mark in the place of every broken character, `display`, or with every byte
of it as a number, `quotedPath`. -/

namespace UnitBinding

/-- The UTF-8 form of a text. -/
def Text.bytes (s : String) : List UInt8 := s.toUTF8.data.toList

/-- Bytes that are meant as a text. -/
structure RawText where
  bytes : List UInt8
  deriving DecidableEq, Inhabited

namespace RawText

/-! ## Texts -/

/-- The bytes of a text. -/
def ofText (s : String) : RawText := ⟨Text.bytes s⟩

/-- The text that the bytes are, if they are one. -/
def text? (raw : RawText) : Option String := String.fromUTF8? raw.bytes.toByteArray

/-- A text is read from its bytes … -/
@[simp] theorem text?_ofText (s : String) : (ofText s).text? = some s := by
  have hbytes : (Text.bytes s).toByteArray = s.toByteArray := by
    rw [Text.bytes]
    exact ByteArray.ext (by rw [List.data_toByteArray]; rfl)
  rw [text?, ofText, hbytes, String.fromUTF8?, dif_pos s.isValidUTF8]
  rfl

/-- … and from no others. -/
theorem eq_ofText_of_text? {raw : RawText} {s : String} (h : raw.text? = some s) :
    raw = ofText s := by
  rw [text?, String.fromUTF8?] at h
  split at h
  · obtain rfl := Option.some.inj h
    rw [ofText, Text.bytes]
    exact congrArg RawText.mk (congrArg Array.toList (List.data_toByteArray (l := raw.bytes))).symm
  · cases h

theorem text?_eq_some_iff {raw : RawText} {s : String} : raw.text? = some s ↔ raw = ofText s :=
  ⟨eq_ofText_of_text?, fun h => h ▸ text?_ofText s⟩

@[simp] theorem ofText_inj {s t : String} : ofText s = ofText t ↔ s = t := by
  rw [← text?_eq_some_iff, text?_ofText, Option.some_inj]

/-! ## Broken characters -/

/-- Whether a byte goes on with a character. -/
def isContinuation (byte : UInt8) : Bool := 0x80 ≤ byte && byte ≤ 0xbf

/-- Whether the first two bytes can start a character of more than two. -/
def startsLong (first second : UInt8) : Bool :=
  if first = 0xe0 then 0xa0 ≤ second && second ≤ 0xbf
  else if first = 0xed then 0x80 ≤ second && second ≤ 0x9f
  else if first = 0xf0 then 0x90 ≤ second && second ≤ 0xbf
  else if first = 0xf4 then 0x80 ≤ second && second ≤ 0x8f
  else 0xe1 ≤ first && first ≤ 0xf3 && isContinuation second

/-- The number of bytes of a broken character at the front: as many as a whole one could start
    with, and at least one. -/
def brokenLength : List UInt8 → Nat
  | first :: second :: rest =>
    if !startsLong first second then 1
    else if 0xf0 ≤ first && rest.head?.any isContinuation then 3
    else 2
  | _ => 1

/-- A part of a raw text. -/
inductive Piece where
  | char (c : Char)
  | broken (bytes : List UInt8)

theorem brokenLength_pos (bytes : List UInt8) : 0 < brokenLength bytes := by
  rw [brokenLength.eq_def]
  split
  · split
    · exact Nat.one_pos
    · split <;> decide
  · exact Nat.one_pos

/-- The characters, and the bytes of broken ones. -/
def pieces (bytes : List UInt8) : List Piece :=
  match bytes with
  | [] => []
  | first :: rest =>
    match ByteArray.utf8DecodeChar? (first :: rest).toByteArray 0 with
    | some c => .char c :: pieces ((first :: rest).drop c.utf8Size)
    | none =>
      let count := brokenLength (first :: rest)
      .broken ((first :: rest).take count) :: pieces ((first :: rest).drop count)
termination_by bytes.length
decreasing_by
  · have := c.utf8Size_pos
    simp only [List.length_drop, List.length_cons]
    omega
  · have := brokenLength_pos (first :: rest)
    simp only [List.length_drop, List.length_cons]
    omega

/-! ## Showing raw texts -/

/-- A raw text as a text. A mark stands for every broken character. -/
def display (raw : RawText) : String :=
  match raw.text? with
  | some s => s
  | none =>
    String.ofList ((pieces raw.bytes).map fun
      | .char c => c
      | .broken _ => '\ufffd')

@[simp] theorem display_ofText (s : String) : (ofText s).display = s := by
  rw [display, text?_ofText]

/-- A byte by its number. -/
def escapeByte (byte : UInt8) : List Char :=
  ['\\', 'x', Text.upperHexDigit (byte.toNat / 16), Text.upperHexDigit (byte.toNat % 16)]

/-- The form in which diagnostics show a path. -/
def quotedPath (raw : RawText) : String :=
  String.ofList
    ('"' :: (pieces raw.bytes).flatMap (fun
      | .char c => Text.escapeInPath c
      | .broken bytes => bytes.flatMap escapeByte) ++ ['"'])

end RawText

end UnitBinding
