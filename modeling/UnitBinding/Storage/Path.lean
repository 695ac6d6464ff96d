import UnitBinding.Text.Raw

set_option autoImplicit false

/-! # Paths

A path is a raw text whose parts slashes separate. The directory that a path lies in, and the stem of its
last part, are read off the bytes; slashes in a row, a slash at the end, and parts that are a single point
do not count, except a point at the front of a path. -/

namespace UnitBinding.Path

/-! ## Parts -/

/-- The byte between the parts of a path. -/
def slash : UInt8 := 0x2f

/-- The byte of a point. -/
def point : UInt8 := 0x2e

/-- The part that leads nowhere. -/
def here : RawText := ⟨[point]⟩

/-- The part that leads up. -/
def up : RawText := ⟨[point, point]⟩

/-- The pieces of bytes between slashes. -/
def pieces : List UInt8 → List (List UInt8)
  | [] => [[]]
  | byte :: rest =>
    if byte = slash then [] :: pieces rest
    else match pieces rest with
      | [] => [[byte]]
      | piece :: others => (byte :: piece) :: others

/-- The names in a path. -/
def parts (path : RawText) : List RawText :=
  ((pieces path.bytes).filter fun piece => piece ≠ []).map RawText.mk

/-- Whether a path starts at the root. -/
def isAbsolute (path : RawText) : Bool := path.bytes.head? = some slash

/-- Whether a path ends in a slash. -/
def endsOpen (path : RawText) : Bool := path.bytes.getLast? = some slash

/-! ## Around the last part -/

/-- Drop what does not count from the end of a path that is spelled backwards. -/
def trimmed : List UInt8 → List UInt8
  | [] => []
  | [byte] => [byte]
  | byte :: next :: rest =>
    if byte = slash || byte = point && next = slash then trimmed (next :: rest)
    else byte :: next :: rest

/-- A path spelled backwards, without what does not count at its end. -/
def backwards (path : RawText) : List UInt8 := trimmed path.bytes.reverse

/-- The directory that a path lies in: empty for a path of one part, none for the root and the empty
    path. -/
def parent? (path : RawText) : Option RawText :=
  if backwards path = [] || backwards path = [slash] then none
  else some ⟨(trimmed ((backwards path).dropWhile (· ≠ slash))).reverse⟩

/-- The last part of a path, unless it leads up or nowhere. -/
def fileName? (path : RawText) : Option RawText :=
  let name : RawText := ⟨((backwards path).takeWhile (· ≠ slash)).reverse⟩
  if name.bytes = [] || name = here || name = up then none else some name

/-- A file name before its last point; a point in front starts no extension. -/
def stemOf (name : RawText) : RawText :=
  match name.bytes.reverse.dropWhile (· ≠ point) with
  | [] => name
  | [_] => name
  | _ :: stem => ⟨stem.reverse⟩

/-- The stem of the last part of a path. -/
def fileStem? (path : RawText) : Option RawText := (fileName? path).map stemOf

/-! ## Making paths -/

/-- A name within a directory. -/
def join (directory name : RawText) : RawText :=
  if directory.bytes = [] then name
  else if endsOpen directory then ⟨directory.bytes ++ name.bytes⟩
  else ⟨directory.bytes ++ slash :: name.bytes⟩

/-- The path of names that follow each other. -/
def ofNames (names : List RawText) : RawText :=
  ⟨[slash].intercalate (names.map RawText.bytes)⟩

/-- A path from the root, for one that may start at a directory. -/
def absolute (directory : List RawText) (path : RawText) : RawText :=
  if isAbsolute path then path else join ⟨slash :: (ofNames directory).bytes⟩ path

/-- The names that lead from one directory to a place, both given from the root. -/
def relative : List RawText → List RawText → List RawText
  | name :: base, other :: rest =>
    if name = other then relative base rest
    else (name :: base).map (fun _ => up) ++ other :: rest
  | base, rest => base.map (fun _ => up) ++ rest

end UnitBinding.Path
