set_option autoImplicit false

/-! # Tables

A finite map as a list of pairs in the order in which keys were first set. `get?` is its view: `set`
and `erase` change the value under one key and no other. -/

namespace UnitBinding

/-- A finite map. -/
structure Table (κ α : Type) where
  entries : List (κ × α) := []
  deriving Inhabited

namespace Table

variable {κ α : Type} [DecidableEq κ]

/-- The first value under a key. -/
def findIn (key : κ) : List (κ × α) → Option α
  | [] => none
  | (k, a) :: rest => if k = key then some a else findIn key rest

/-- Replace the first value under a key, or add the pair at the end. -/
def setIn (key : κ) (value : α) : List (κ × α) → List (κ × α)
  | [] => [(key, value)]
  | (k, a) :: rest => if k = key then (key, value) :: rest else (k, a) :: setIn key value rest

/-- The pairs with other keys. -/
def eraseIn (key : κ) : List (κ × α) → List (κ × α)
  | [] => []
  | (k, a) :: rest => if k = key then eraseIn key rest else (k, a) :: eraseIn key rest

/-- A table without entries. -/
def empty : Table κ α := ⟨[]⟩

/-- The value under a key. -/
def get? (table : Table κ α) (key : κ) : Option α := findIn key table.entries

/-- Whether a key has a value. -/
def contains (table : Table κ α) (key : κ) : Bool := (table.get? key).isSome

/-- Give a key a value. -/
def set (table : Table κ α) (key : κ) (value : α) : Table κ α := ⟨setIn key value table.entries⟩

/-- Take a key away. -/
def erase (table : Table κ α) (key : κ) : Table κ α := ⟨eraseIn key table.entries⟩

/-- The number of entries. -/
def size (table : Table κ α) : Nat := table.entries.length

/-- A table from pairs; of several values for one key the last counts. -/
def ofList (pairs : List (κ × α)) : Table κ α :=
  pairs.foldl (fun table pair => table.set pair.1 pair.2) empty

@[simp] theorem get?_empty (key : κ) : (empty : Table κ α).get? key = none := rfl

theorem findIn_setIn_self (key : κ) (value : α) (pairs : List (κ × α)) :
    findIn key (setIn key value pairs) = some value := by
  induction pairs with
  | nil => simp [setIn, findIn]
  | cons pair rest ih =>
    simp only [setIn]
    split <;> simp_all [findIn]

theorem findIn_setIn_of_ne (key other : κ) (value : α) (pairs : List (κ × α)) (h : other ≠ key) :
    findIn other (setIn key value pairs) = findIn other pairs := by
  induction pairs with
  | nil => simp [setIn, findIn, Ne.symm h]
  | cons pair rest ih =>
    simp only [setIn]
    split
    · rename_i hk
      simp [findIn, hk, Ne.symm h]
    · simp [findIn, ih]

theorem findIn_eraseIn_self (key : κ) (pairs : List (κ × α)) :
    findIn key (eraseIn key pairs) = none := by
  induction pairs with
  | nil => rfl
  | cons pair rest ih =>
    simp only [eraseIn]
    split <;> simp_all [findIn]

theorem findIn_eraseIn_of_ne (key other : κ) (pairs : List (κ × α)) (h : other ≠ key) :
    findIn other (eraseIn key pairs) = findIn other pairs := by
  induction pairs with
  | nil => rfl
  | cons pair rest ih =>
    simp only [eraseIn]
    split
    · rename_i hk
      simp [findIn, hk, Ne.symm h, ih]
    · simp [findIn, ih]

/-- A key has the value that was just set … -/
@[simp] theorem get?_set_self (table : Table κ α) (key : κ) (value : α) :
    (table.set key value).get? key = some value :=
  findIn_setIn_self key value table.entries

/-- … and the other keys keep theirs. -/
theorem get?_set_of_ne (table : Table κ α) (key other : κ) (value : α) (h : other ≠ key) :
    (table.set key value).get? other = table.get? other :=
  findIn_setIn_of_ne key other value table.entries h

/-- An erased key has no value … -/
@[simp] theorem get?_erase_self (table : Table κ α) (key : κ) :
    (table.erase key).get? key = none :=
  findIn_eraseIn_self key table.entries

/-- … and the other keys keep theirs. -/
theorem get?_erase_of_ne (table : Table κ α) (key other : κ) (h : other ≠ key) :
    (table.erase key).get? other = table.get? other :=
  findIn_eraseIn_of_ne key other table.entries h

end Table

end UnitBinding
