import UnitBinding.Error
import UnitBinding.Storage.Disk

set_option autoImplicit false

/-! # Finding files

Where a path leads depends on the directories alone, except that its last part may be the name of a file:
it is found if it stands where the path would be written (`Disk.resolve_eq_file_iff`). So what is written
is found again (`Disk.resolve_put`), and paths to anything else lead to where they led before
(`Disk.OneFileChanged.resolve_eq_ok_iff`). -/

namespace UnitBinding

namespace Disk

variable {disk other : Disk} {path content : RawText} {names : List RawText}

/-! ## Files at the end of a path -/

/-- The last part of a path can be the name of a file. -/
structure CanNameFile (path name : RawText) : Prop where
  ne_here : name ≠ Path.here
  ne_up : name ≠ Path.up
  short : name.bytes.length ≤ nameLimit
  closed : Path.endsOpen path = false

theorem lookIn_eq_file_iff {here : List RawText} {last : Option RawText} :
    disk.lookIn here (Path.endsOpen path) last = .ok (names, .file content)
      ↔ ∃ name, last = some name ∧ CanNameFile path name ∧ names = here ++ [name]
        ∧ disk.node? names = some (.file content) := by
  constructor
  · intro h
    cases last with
    | none => cases h
    | some name =>
      rw [lookIn] at h
      split at h
      · cases h
      split at h
      · cases h
      split at h
      · cases h
      rename_i hhere hup hlong
      split at h
      · cases h
      · cases h
      · rename_i hnode
        split at h
        · cases h
        · rename_i hopen
          cases h
          exact ⟨name, rfl, ⟨hhere, hup, Nat.le_of_not_lt hlong, Bool.eq_false_iff.2 hopen⟩, rfl, hnode⟩
  · rintro ⟨name, rfl, hname, rfl, hnode⟩
    rw [lookIn, if_neg hname.ne_here, if_neg hname.ne_up, if_neg (Nat.not_lt_of_le hname.short)]
    simp [hnode, hname.closed]

theorem target_eq_ok_iff :
    disk.target path = .ok names
      ↔ ∃ here name, disk.locate path = .ok (here, some name) ∧ CanNameFile path name
        ∧ names = here ++ [name] ∧ disk.node? names ≠ some .directory := by
  rw [target, bind_eq_ok_iff]
  constructor
  · rintro ⟨⟨here, last⟩, hlocate, h⟩
    cases last with
    | none => cases h
    | some name =>
      dsimp only at h
      split at h
      · cases h
      split at h
      · cases h
      rename_i hname hlong
      simp only [Bool.or_eq_true, decide_eq_true_eq, not_or] at hname
      obtain ⟨⟨hhere, hup⟩, hopen⟩ := hname
      split at h
      · cases h
      · rename_i hnode
        cases h
        exact ⟨here, name, hlocate,
          ⟨hhere, hup, Nat.le_of_not_lt hlong, Bool.eq_false_iff.2 hopen⟩, rfl, hnode⟩
  · rintro ⟨here, name, hlocate, hname, rfl, hnode⟩
    refine ⟨_, hlocate, ?_⟩
    simp only [hname.ne_here, hname.ne_up, hname.closed, Nat.not_lt_of_le hname.short,
      decide_false, Bool.or_self, Bool.false_eq_true, if_false]

theorem resolve_eq_ok_iff {found : List RawText × Node} :
    disk.resolve path = .ok found ↔ ∃ here last, disk.locate path = .ok (here, last)
      ∧ disk.lookIn here (Path.endsOpen path) last = .ok found := by
  rw [resolve, bind_eq_ok_iff, Prod.exists]

/-- **A path leads to a file** that stands where the path would be written. -/
theorem resolve_eq_file_iff :
    disk.resolve path = .ok (names, .file content)
      ↔ disk.target path = .ok names ∧ disk.node? names = some (.file content) := by
  rw [resolve_eq_ok_iff, target_eq_ok_iff]
  constructor
  · rintro ⟨here, last, hlocate, hlook⟩
    obtain ⟨name, rfl, hname, rfl, hnode⟩ := lookIn_eq_file_iff.1 hlook
    exact ⟨⟨here, name, hlocate, hname, rfl, by simp [hnode]⟩, hnode⟩
  · rintro ⟨⟨here, name, hlocate, hname, rfl, -⟩, hnode⟩
    exact ⟨here, some name, hlocate, lookIn_eq_file_iff.2 ⟨name, rfl, hname, rfl, hnode⟩⟩

theorem fileFrom?_eq_some_iff {here : List RawText} {file : FoundFile} :
    disk.fileFrom? here path = some file
      ↔ { disk with current := here }.resolve path = .ok (file.names, .file file.content)
        ∧ disk.title (Path.absolute here path) = file.shown := by
  obtain ⟨shown, names, content⟩ := file
  rw [fileFrom?]
  split
  · rename_i q found hresolve
    simp only [hresolve, Option.some.injEq, FoundFile.mk.injEq, Except.ok.injEq, Prod.mk.injEq,
      Node.file.injEq]
    exact and_comm
  · rename_i hnone
    exact iff_of_false (by simp) fun h => hnone _ _ h.1

theorem holds_iff : disk.holds path = true ↔ ∃ found, disk.resolve path = .ok found := by
  rw [holds]
  cases disk.resolve path <;> simp [Except.isOk, Except.toBool]

/-- A file at the current directory is found before any further up. -/
theorem find?_of_resolve (h : disk.resolve path = .ok (names, .file content)) :
    disk.find? path = some ⟨disk.title (Path.absolute disk.current path), names, content⟩ := by
  have hfirst : upwards disk.current
      = disk.current :: (List.range disk.current.length).reverse.map disk.current.take := by
    rw [upwards, List.range_succ, List.reverse_append, List.reverse_singleton, List.singleton_append,
      List.map_cons, List.take_length]
  rw [find?, hfirst, List.findSome?_cons, fileFrom?, h]

/-! ## Disks with the same directories -/

/-- Two disks with the same directories, on which relative paths start at the same one. -/
structure SameDirectories (disk other : Disk) : Prop where
  current : other.current = disk.current
  directory : ∀ names, other.node? names = some .directory ↔ disk.node? names = some .directory

namespace SameDirectories

theorem symm (h : SameDirectories disk other) : SameDirectories other disk :=
  ⟨h.current.symm, fun names => (h.directory names).symm⟩

/-- The same holds if paths start at another directory. -/
theorem startingAt (h : SameDirectories disk other) (here : List RawText) :
    SameDirectories { disk with current := here } { other with current := here } :=
  ⟨rfl, h.directory⟩

theorem walk (h : SameDirectories disk other) {here parts found : List RawText}
    (hwalk : disk.walk here parts = .ok found) : other.walk here parts = .ok found := by
  induction parts generalizing here with
  | nil => exact hwalk
  | cons part rest ih =>
    rw [Disk.walk] at hwalk ⊢
    by_cases hhere : part = Path.here
    · rw [if_pos hhere] at hwalk ⊢
      exact ih hwalk
    by_cases hup : part = Path.up
    · rw [if_neg hhere, if_pos hup] at hwalk ⊢
      exact ih hwalk
    rw [if_neg hhere, if_neg hup] at hwalk ⊢
    split at hwalk
    · cases hwalk
    rename_i hlong
    rw [if_neg hlong]
    split at hwalk
    · cases hwalk
    · cases hwalk
    · rename_i hnode
      rw [(h.directory _).2 hnode]
      exact ih hwalk

theorem locate (h : SameDirectories disk other) {found : List RawText × Option RawText}
    (hlocate : disk.locate path = .ok found) : other.locate path = .ok found := by
  obtain ⟨checked, hcheck, hrest⟩ := bind_eq_ok_iff.1 hlocate
  obtain ⟨here, hwalk, hfound⟩ := bind_eq_ok_iff.1 hrest
  refine bind_eq_ok_iff.2 ⟨checked, hcheck, bind_eq_ok_iff.2 ⟨here, ?_, hfound⟩⟩
  rw [start, h.current]
  exact h.walk hwalk

theorem target (h : SameDirectories disk other) (htarget : disk.target path = .ok names) :
    other.target path = .ok names := by
  obtain ⟨here, name, hlocate, hname, rfl, hnode⟩ := target_eq_ok_iff.1 htarget
  exact target_eq_ok_iff.2 ⟨here, name, h.locate hlocate, hname, rfl, mt (h.directory _).1 hnode⟩

/-- A path leads to the same file, which may hold something else. -/
theorem resolve_file (h : SameDirectories disk other)
    (hresolve : disk.resolve path = .ok (names, .file content)) {found : RawText}
    (hnode : other.node? names = some (.file found)) :
    other.resolve path = .ok (names, .file found) :=
  resolve_eq_file_iff.2 ⟨h.target (resolve_eq_file_iff.1 hresolve).1, hnode⟩

/-- A path leads to the same directory. -/
theorem resolve_directory (h : SameDirectories disk other)
    (hresolve : disk.resolve path = .ok (names, .directory)) :
    other.resolve path = .ok (names, .directory) := by
  obtain ⟨here, last, hlocate, hlook⟩ := resolve_eq_ok_iff.1 hresolve
  refine resolve_eq_ok_iff.2 ⟨here, last, h.locate hlocate, ?_⟩
  cases last with
  | none => exact hlook
  | some name =>
    rw [lookIn] at hlook ⊢
    split
    · rwa [if_pos ‹_›] at hlook
    split
    · rwa [if_neg ‹_›, if_pos ‹_›] at hlook
    rw [if_neg ‹_›, if_neg ‹_›] at hlook
    split
    · rwa [if_pos ‹_›] at hlook
    rw [if_neg ‹_›] at hlook
    split at hlook
    · cases hlook
    · rename_i hnode
      rw [(h.directory _).2 hnode]
      exact hlook
    · split at hlook
      · cases hlook
      · cases hlook

end SameDirectories

/-! ## Writing and taking away a file -/

theorem ne_nil_of_node?_ne (h : disk.node? names ≠ some .directory) : names ≠ [] := by
  rintro rfl
  exact h rfl

theorem node?_put_file (h : disk.node? names ≠ some .directory) (content : RawText) :
    (disk.put names (.file content)).node? names = some (.file content) :=
  node?_put_self disk (ne_nil_of_node?_ne h) _

theorem sameDirectories_put (h : disk.node? names ≠ some .directory) (content : RawText) :
    SameDirectories disk (disk.put names (.file content)) := by
  refine ⟨rfl, fun q => ?_⟩
  by_cases hq : q = names
  · subst hq
    rw [node?_put_file h]
    exact iff_of_false (by simp) h
  · rw [node?_put_of_ne _ hq]

theorem sameDirectories_erase (h : disk.node? names ≠ some .directory) :
    SameDirectories disk (disk.erase names) := by
  refine ⟨rfl, fun q => ?_⟩
  by_cases hq : q = names
  · subst hq
    rw [node?_erase_self _ (ne_nil_of_node?_ne h)]
    exact iff_of_false (by simp) h
  · rw [node?_erase_of_ne _ hq]

/-- **What was written is found** by the same path. -/
theorem resolve_put (h : disk.target path = .ok names) (content : RawText) :
    (disk.put names (.file content)).resolve path = .ok (names, .file content) := by
  obtain ⟨-, -, -, -, -, hnode⟩ := target_eq_ok_iff.1 h
  exact resolve_eq_file_iff.2
    ⟨(sameDirectories_put hnode content).target h, node?_put_file hnode content⟩

/-- Two disks that differ in one file, which is there on the first. -/
structure OneFileChanged (names : List RawText) (disk other : Disk) : Prop
    extends SameDirectories disk other where
  before : ∃ content, disk.node? names = some (.file content)
  elsewhere : ∀ q, q ≠ names → other.node? q = disk.node? q

theorem oneFileChanged_put (h : disk.node? names = some (.file content)) (found : RawText) :
    OneFileChanged names disk (disk.put names (.file found)) where
  toSameDirectories := sameDirectories_put (by simp [h]) found
  before := ⟨content, h⟩
  elsewhere _ hq := node?_put_of_ne disk hq _

theorem oneFileChanged_erase (h : disk.node? names = some (.file content)) :
    OneFileChanged names disk (disk.erase names) where
  toSameDirectories := sameDirectories_erase (by simp [h])
  before := ⟨content, h⟩
  elsewhere _ hq := node?_erase_of_ne disk hq

/-- A file that was made is the one change from the disk afterwards back to the disk before. -/
theorem oneFileChanged_of_made (h : disk.node? names = none) (found : RawText) :
    OneFileChanged names (disk.put names (.file found)) disk where
  toSameDirectories := (sameDirectories_put (by simp [h]) found).symm
  before := ⟨found, node?_put_file (by simp [h]) found⟩
  elsewhere _ hq := (node?_put_of_ne disk hq _).symm

namespace OneFileChanged

theorem startingAt (h : OneFileChanged names disk other) (here : List RawText) :
    OneFileChanged names { disk with current := here } { other with current := here } :=
  ⟨h.toSameDirectories.startingAt here, h.before, h.elsewhere⟩

/-- **A path to something else** leads to where it led. -/
theorem resolve_eq_ok_iff (h : OneFileChanged names disk other)
    (hpath : ∀ content, disk.resolve path ≠ .ok (names, .file content))
    {found : List RawText × Node} : other.resolve path = .ok found ↔ disk.resolve path = .ok found := by
  obtain ⟨q, content | _⟩ := found
  · rw [resolve_eq_file_iff, resolve_eq_file_iff]
    constructor
    · rintro ⟨htarget, hnode⟩
      have htarget := h.symm.target htarget
      by_cases hq : q = names
      · subst hq
        obtain ⟨kept, hkept⟩ := h.before
        exact absurd (resolve_eq_file_iff.2 ⟨htarget, hkept⟩) (hpath kept)
      · exact ⟨htarget, h.elsewhere q hq ▸ hnode⟩
    · rintro ⟨htarget, hnode⟩
      have hq : q ≠ names := by
        rintro rfl
        exact hpath content (resolve_eq_file_iff.2 ⟨htarget, hnode⟩)
      exact ⟨h.target htarget, (h.elsewhere q hq).trans hnode⟩
  · exact ⟨h.symm.resolve_directory, h.resolve_directory⟩

theorem holds_eq (h : OneFileChanged names disk other)
    (hpath : ∀ content, disk.resolve path ≠ .ok (names, .file content)) :
    other.holds path = disk.holds path := by
  rw [Bool.eq_iff_iff, holds_iff, holds_iff]
  exact exists_congr fun found => h.resolve_eq_ok_iff hpath

/-- Another file is found from a directory as it was. -/
theorem fileFrom?_eq (h : OneFileChanged names disk other) {here : List RawText}
    (hfile : ∀ file, disk.fileFrom? here path = some file → file.names ≠ names) :
    other.fileFrom? here path = disk.fileFrom? here path := by
  have hpath : ∀ content,
      { disk with current := here }.resolve path ≠ .ok (names, .file content) := by
    intro content hresolve
    exact hfile ⟨_, names, content⟩ (fileFrom?_eq_some_iff.2 ⟨hresolve, rfl⟩) rfl
  have htitle : other.title (Path.absolute here path) = disk.title (Path.absolute here path) := by
    rw [title, title, h.current]
  refine Option.ext fun file => ?_
  rw [fileFrom?_eq_some_iff, fileFrom?_eq_some_iff, (h.startingAt here).resolve_eq_ok_iff hpath,
    htitle]

/-- Another file is found as it was, from wherever it is found. -/
theorem find?_eq (h : OneFileChanged names disk other)
    (hfile : ∀ file, disk.find? path = some file → file.names ≠ names) :
    other.find? path = disk.find? path := by
  rw [find?] at hfile ⊢
  rw [find?, h.current]
  generalize upwards disk.current = directories at hfile ⊢
  induction directories with
  | nil => rfl
  | cons here rest ih =>
    rw [List.findSome?_cons] at hfile
    rw [List.findSome?_cons, List.findSome?_cons]
    cases hfound : disk.fileFrom? here path with
    | none =>
      rw [hfound] at hfile
      rw [h.fileFrom?_eq (by simp [hfound]), hfound]
      exact ih hfile
    | some file =>
      rw [hfound] at hfile
      rw [h.fileFrom?_eq (by simpa [hfound] using hfile), hfound]

end OneFileChanged

/-- A found file, with what it holds after another content was put under some names. -/
def FoundFile.overwritten (file : FoundFile) (names : List RawText) (content : RawText) : FoundFile :=
  if file.names = names then { file with content } else file

section Overwriting

variable (h : disk.node? names = some (.file content)) (found : RawText)
include h

theorem node?_put_over : (disk.put names (.file found)).node? names = some (.file found) :=
  node?_put_file (by simp [h]) found

theorem fileFrom?_put (here : List RawText) (path : RawText) :
    (disk.put names (.file found)).fileFrom? here path
      = (disk.fileFrom? here path).map (·.overwritten names found) := by
  have hchanged := oneFileChanged_put h found
  cases hfile : disk.fileFrom? here path with
  | none => rw [hchanged.fileFrom?_eq (by simp [hfile]), hfile, Option.map_none]
  | some file =>
    by_cases hnames : file.names = names
    · subst hnames
      obtain ⟨hresolve, hshown⟩ := fileFrom?_eq_some_iff.1 hfile
      rw [Option.map_some, FoundFile.overwritten, if_pos rfl, fileFrom?_eq_some_iff]
      exact ⟨(hchanged.toSameDirectories.startingAt here).resolve_file hresolve (node?_put_over h found),
        hshown⟩
    · rw [hchanged.fileFrom?_eq (by simpa [hfile] using hnames), hfile, Option.map_some,
        FoundFile.overwritten, if_neg hnames]

theorem find?_put (path : RawText) :
    (disk.put names (.file found)).find? path
      = (disk.find? path).map (·.overwritten names found) := by
  rw [find?, find?, current_put, List.map_findSome?]
  exact congrArg (List.findSome? · _) (funext fun here => fileFrom?_put h found here path)

theorem holds_put (path : RawText) :
    (disk.put names (.file found)).holds path = disk.holds path := by
  by_cases hpath : ∃ old, disk.resolve path = .ok (names, .file old)
  · obtain ⟨old, hresolve⟩ := hpath
    rw [holds_iff.2 ⟨_, hresolve⟩]
    have hsame := (oneFileChanged_put h found).toSameDirectories
    exact holds_iff.2 ⟨_, hsame.resolve_file hresolve (node?_put_over h found)⟩
  · exact (oneFileChanged_put h found).holds_eq fun old hold => hpath ⟨old, hold⟩

end Overwriting

end Disk

end UnitBinding
