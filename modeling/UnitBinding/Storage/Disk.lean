import UnitBinding.Storage.Path
import UnitBinding.Table

set_option autoImplicit false

/-! # Files and directories

A small file system: which files and directories there are, by the names that lead to them from the root,
and the directory that relative paths start from. It has what reading and writing a configuration and
opening a log need, with the faults that each can meet. Permissions, links and special files are left
out.

`Disk.node?` is the view of a disk: `put` and `erase` change what stands under one list of names and no
other. -/

namespace UnitBinding

/-! ## Faults -/

/-- Why an operation on files failed. -/
inductive IoFault where
  | notFound
  | exists
  | notDirectory
  | isDirectory
  | nameTooLong
  /-- The path holds a byte that ends names for the system. -/
  | invalidName
  deriving DecidableEq, Inhabited

/-- The wording of a fault. -/
def IoFault.message : IoFault → String
  | .notFound => "No such file or directory (os error 2)"
  | .exists => "File exists (os error 17)"
  | .notDirectory => "Not a directory (os error 20)"
  | .isDirectory => "Is a directory (os error 21)"
  | .nameTooLong => "File name too long (os error 36)"
  | .invalidName => "file name contained an unexpected NUL byte"

/-! ## Nodes -/

/-- What stands under a list of names. -/
inductive Node where
  | file (content : RawText)
  | directory
  deriving DecidableEq, Inhabited

/-- Files and directories, and the names that lead to the current directory. -/
structure Disk where
  nodes : Table (List RawText) Node := Table.empty
  current : List RawText := []
  deriving Inhabited

namespace Disk

/-- A current directory with some files, within an otherwise empty tree. -/
def scratch (files : List (String × String)) : Disk :=
  let current : List RawText := [.ofText "tmp", .ofText "scratch"]
  { nodes := Table.ofList ([(current.take 1, .directory), (current, .directory)]
      ++ files.map fun file => (current ++ [.ofText file.1], .file (.ofText file.2)))
    current }

/-- What stands under a list of names. The root is always there. -/
def node? (disk : Disk) (names : List RawText) : Option Node :=
  if names = [] then some .directory else disk.nodes.get? names

/-- Put something under a list of names, in the place of what stood there. -/
def put (disk : Disk) (names : List RawText) (node : Node) : Disk :=
  { disk with nodes := disk.nodes.set names node }

/-- Take away what stands under a list of names. -/
def erase (disk : Disk) (names : List RawText) : Disk :=
  { disk with nodes := disk.nodes.erase names }

@[simp] theorem current_put (disk : Disk) (names : List RawText) (node : Node) :
    (disk.put names node).current = disk.current := rfl

@[simp] theorem current_erase (disk : Disk) (names : List RawText) :
    (disk.erase names).current = disk.current := rfl

/-- What was just put somewhere stands there … -/
theorem node?_put_self (disk : Disk) {names : List RawText} (h : names ≠ []) (node : Node) :
    (disk.put names node).node? names = some node := by
  rw [node?, if_neg h]
  exact Table.get?_set_self _ _ _

/-- … and all else stands as it did. -/
theorem node?_put_of_ne (disk : Disk) {names other : List RawText} (h : other ≠ names)
    (node : Node) : (disk.put names node).node? other = disk.node? other := by
  rw [node?, node?]
  split
  · rfl
  · exact Table.get?_set_of_ne _ _ _ _ h

/-- Nothing stands where something was taken away … -/
theorem node?_erase_self (disk : Disk) {names : List RawText} (h : names ≠ []) :
    (disk.erase names).node? names = none := by
  rw [node?, if_neg h]
  exact Table.get?_erase_self _ _

/-- … and all else stands as it did. -/
theorem node?_erase_of_ne (disk : Disk) {names other : List RawText} (h : other ≠ names) :
    (disk.erase names).node? other = disk.node? other := by
  rw [node?, node?]
  split
  · rfl
  · exact Table.get?_erase_of_ne _ _ _ h

/-! ## Looking up paths -/

/-- The bound on the bytes of one name. -/
def nameLimit : Nat := 255

/-- The bound on the bytes of a path. -/
def pathLimit : Nat := 4096

/-- Where a path starts. -/
def start (disk : Disk) (path : RawText) : List RawText :=
  if Path.isAbsolute path then [] else disk.current

/-- The directory that names lead to from a directory, given by its names from the root. -/
def walk (disk : Disk) : List RawText → List RawText → Except IoFault (List RawText)
  | here, [] => .ok here
  | here, part :: rest =>
    if part = Path.here then walk disk here rest
    else if part = Path.up then walk disk here.dropLast rest
    else if nameLimit < part.bytes.length then .error .nameTooLong
    else match disk.node? (here ++ [part]) with
      | none => .error .notFound
      | some (.file _) => .error .notDirectory
      | some .directory => walk disk (here ++ [part]) rest

/-- Faults of a path on its own. -/
def checkPath (path : RawText) : Except IoFault Unit :=
  if path.bytes.contains 0 then .error .invalidName
  else if path.bytes = [] then .error .notFound
  else if pathLimit ≤ path.bytes.length then .error .nameTooLong
  else .ok ()

/-- The directory that the last part of a path is looked up in, and that part, if there is one. -/
def locate (disk : Disk) (path : RawText) : Except IoFault (List RawText × Option RawText) := do
  checkPath path
  let parts := Path.parts path
  let here ← walk disk (disk.start path) parts.dropLast
  return (here, parts.getLast?)

/-- What the last part of a path leads to in a directory: the names from the root, and what stands
    there. A slash may follow the name of a directory only. -/
def lookIn (disk : Disk) (here : List RawText) (isOpen : Bool) :
    Option RawText → Except IoFault (List RawText × Node)
  | none => .ok (here, .directory)
  | some name =>
    if name = Path.here then .ok (here, .directory)
    else if name = Path.up then .ok (here.dropLast, .directory)
    else if nameLimit < name.bytes.length then .error .nameTooLong
    else match disk.node? (here ++ [name]) with
      | none => .error .notFound
      | some .directory => .ok (here ++ [name], .directory)
      | some (.file content) =>
        if isOpen then .error .notDirectory else .ok (here ++ [name], .file content)

/-- What a path leads to. -/
def resolve (disk : Disk) (path : RawText) : Except IoFault (List RawText × Node) := do
  let (here, last) ← disk.locate path
  disk.lookIn here (Path.endsOpen path) last

/-- Whether something stands under a path. -/
def holds (disk : Disk) (path : RawText) : Bool := (disk.resolve path).isOk

/-- Whether a path leads to a directory. -/
def isDirectory (disk : Disk) (path : RawText) : Bool :=
  match disk.resolve path with
  | .ok (_, .directory) => true
  | _ => false

/-! ## Reading -/

/-- A file that was found. -/
structure FoundFile where
  /-- What its path is called in messages. -/
  shown : String
  /-- The names that lead to it from the root. -/
  names : List RawText
  content : RawText
  deriving DecidableEq, Inhabited

/-- What a path from the root is called in messages. It starts at the current directory if it has fewer
    parts that way. -/
def title (disk : Disk) (path : RawText) : String :=
  let names := (Path.parts path).filter fun part => part ≠ Path.here
  let others := Path.relative disk.current names
  if others.length ≤ names.length then (Path.ofNames others).display else path.display

/-- The file under a path that starts at a directory, if there is one. -/
def fileFrom? (disk : Disk) (here : List RawText) (path : RawText) : Option FoundFile :=
  match { disk with current := here }.resolve path with
  | .ok (names, .file content) => some ⟨disk.title (Path.absolute here path), names, content⟩
  | _ => none

/-- A directory and those it lies in, up to the root. -/
def upwards (names : List RawText) : List (List RawText) :=
  (List.range (names.length + 1)).reverse.map names.take

/-- The file under a path that starts at the current directory or, if there is none, at one of those it
    lies in. -/
def find? (disk : Disk) (path : RawText) : Option FoundFile :=
  (upwards disk.current).findSome? fun here => disk.fileFrom? here path

/-! ## Writing -/

/-- The names of the file that a path opens for writing, which need not be there. -/
def target (disk : Disk) (path : RawText) : Except IoFault (List RawText) := do
  let (here, last) ← disk.locate path
  match last with
  | none => .error .isDirectory
  | some name =>
    if name = Path.here || name = Path.up || Path.endsOpen path then .error .isDirectory
    else if nameLimit < name.bytes.length then .error .nameTooLong
    else match disk.node? (here ++ [name]) with
      | some .directory => .error .isDirectory
      | _ => .ok (here ++ [name])

/-- Open a file for writing at its end, and make it if need be. -/
def openFile (disk : Disk) (path : RawText) : Except IoFault Disk := do
  let names ← disk.target path
  return if (disk.node? names).isSome then disk else disk.put names (.file ⟨[]⟩)

/-- Write a file, in the place of what it held. -/
def writeFile (disk : Disk) (path content : RawText) : Except IoFault Disk :=
  (disk.target path).map fun names => disk.put names (.file content)

/-- Make a directory. -/
def makeDirectory (disk : Disk) (path : RawText) : Except IoFault Disk := do
  let (here, last) ← disk.locate path
  match last with
  | none => .error .exists
  | some name =>
    if name = Path.here || name = Path.up then .error .exists
    else if nameLimit < name.bytes.length then .error .nameTooLong
    else match disk.node? (here ++ [name]) with
      | some _ => .error .exists
      | none => .ok (disk.put (here ++ [name]) .directory)

/-- Make a directory and those it lies in, as far as they are missing. A directory that is there
    already is no fault. -/
def makeDirectories : Nat → Disk → RawText → Except IoFault Disk
  | 0, disk, _ => .ok disk
  | fuel + 1, disk, path =>
    if path.bytes = [] then .ok disk
    else match disk.makeDirectory path with
      | .ok disk => .ok disk
      | .error .notFound =>
        match Path.parent? path with
        | none => .error .notFound
        | some parent =>
          match makeDirectories fuel disk parent with
          | .error fault => .error fault
          | .ok disk =>
            match disk.makeDirectory path with
            | .ok disk => .ok disk
            | .error fault => if disk.isDirectory path then .ok disk else .error fault
      | .error fault => if disk.isDirectory path then .ok disk else .error fault

/-- Make a directory and those it lies in. Each step up shortens the path, whose length bounds the
    steps. -/
def ensureDirectory (disk : Disk) (path : RawText) : Except IoFault Disk :=
  makeDirectories (path.bytes.length + 1) disk path

end Disk

end UnitBinding
