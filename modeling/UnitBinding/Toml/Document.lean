import UnitBinding.Table
import UnitBinding.Toml.Basic

set_option autoImplicit false

/-! # Configuration files: from lines to tables

The lines of a file are `Expression`s: a header opens a table, and an assignment gives a key a value in
the table opened last. `ofExpressions?` builds the root table from them and refuses a file that says
something twice. To know what counts as twice, each table under construction remembers how it came to
be (`Made`): a header may define a table only once, and dotted keys may extend only tables that dotted
keys made. -/

namespace UnitBinding.Toml

/-- A line of a file that is neither empty nor a comment. -/
inductive Expression where
  /-- A key with the keys that lead to it, and its value. -/
  | assign (path : List String) (key : String) (value : Value)
  /-- The header of a table. -/
  | header (path : List String) (key : String)
  /-- The header of one more table of an array. -/
  | arrayHeader (path : List String) (key : String)
  deriving Inhabited

/-- How a table came to be. -/
inductive Made where
  /-- By a longer header that leads through it. -/
  | implied
  /-- By a dotted key that leads through it. -/
  | dotted
  /-- By a header of its own. -/
  | defined
  deriving DecidableEq, Inhabited

/-- A part of a document under construction. -/
inductive Node where
  | value (v : Value)
  | table (made : Made) (members : List (String × Node))
  /-- The tables of an array, the latest first. -/
  | tables (latest : List (String × Node)) (earlier : List (List (String × Node)))
  deriving Inhabited

/-- The members of a table under construction. -/
abbrev Members := List (String × Node)

/-! ## Assignments -/

/-- Give a new key a value. -/
def addNew (key : String) (node : Node) (members : Members) : Option Members :=
  if (Table.findIn key members).isSome then none else some (Table.setIn key node members)

/-- Give a new key a value in the table that dotted keys lead to. -/
def assignDotted (key : String) (node : Node) : List String → Made → Members → Option Members
  | [], made, members => if made = .dotted then addNew key node members else none
  | k :: rest, _, members =>
    let inner : Option Node := match Table.findIn k members with
      | none => (assignDotted key node rest .dotted []).map (.table .dotted)
      | some (.value _) => none
      | some (.table .defined _) => none
      | some (.table made inner) => (assignDotted key node rest made inner).map (.table made)
      | some (.tables latest earlier) =>
        (assignDotted key node rest .defined latest).map fun latest => .tables latest earlier
    inner.map fun inner => Table.setIn k inner members

/-- An assignment in a table. -/
def assignIn (path : List String) (key : String) (node : Node) (members : Members) :
    Option Members :=
  match path with
  | [] => addNew key node members
  | _ :: _ => assignDotted key node path .defined members

/-! ## Headers -/

/-- Change the table that the keys of a header lead to. Tables on the way are made as needed, and an
    array of tables stands for its latest one. -/
def within (change : Members → Option Members) : List String → Members → Option Members
  | [], members => change members
  | k :: rest, members =>
    let inner : Option Node := match Table.findIn k members with
      | none => (within change rest []).map (.table .implied)
      | some (.value _) => none
      | some (.table made inner) => (within change rest inner).map (.table made)
      | some (.tables latest earlier) =>
        (within change rest latest).map fun latest => .tables latest earlier
    inner.map fun inner => Table.setIn k inner members

/-- Define a table. A table that longer headers implied keeps its members. -/
def define (key : String) (members : Members) : Option Members :=
  match Table.findIn key members with
  | none => some (Table.setIn key (.table .defined []) members)
  | some (.table .implied inner) => some (Table.setIn key (.table .defined inner) members)
  | some _ => none

/-- Add a table to an array. -/
def appendTable (key : String) (members : Members) : Option Members :=
  match Table.findIn key members with
  | none => some (Table.setIn key (.tables [] []) members)
  | some (.tables latest earlier) =>
    some (Table.setIn key (.tables [] (latest :: earlier)) members)
  | some _ => none

/-! ## Documents -/

/-- A document under construction: its root, and the keys of the table opened last. -/
structure Draft where
  root : Members := []
  opened : List String := []
  deriving Inhabited

/-- Take one line into account. -/
def Draft.add (draft : Draft) : Expression → Option Draft
  | .assign path key value =>
    (within (assignIn path key (.value value)) draft.opened draft.root).map fun root =>
      { draft with root }
  | .header path key =>
    (within (define key) path draft.root).map fun root => ⟨root, path ++ [key]⟩
  | .arrayHeader path key =>
    (within (appendTable key) path draft.root).map fun root => ⟨root, path ++ [key]⟩

mutual

/-- The value of a finished part. -/
def Node.finish : Node → Value
  | .value v => v
  | .table _ members => .table (finishMembers members)
  | .tables latest earlier =>
    .arr ((finishTables earlier).reverse ++ [.table (finishMembers latest)])

/-- The members of a finished table. -/
def finishMembers : List (String × Node) → List (String × Value)
  | [] => []
  | (key, node) :: rest => (key, node.finish) :: finishMembers rest

/-- The tables of a finished array. -/
def finishTables : List (List (String × Node)) → List Value
  | [] => []
  | members :: rest => .table (finishMembers members) :: finishTables rest

end

/-- The members of the root table of a file, if the file says nothing twice. -/
def ofExpressions? (expressions : List Expression) : Option (List (String × Value)) :=
  (expressions.foldlM Draft.add {}).map fun draft => finishMembers draft.root

/-- The table with these members, given by their dotted keys on one line. -/
def inlineTable? (pairs : List (List String × String × Value)) : Option Value :=
  (pairs.foldlM (fun members p => assignIn p.1 p.2.1 (.value p.2.2) members) []).map
    fun members => .table (finishMembers members)

end UnitBinding.Toml
