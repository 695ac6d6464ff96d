import Mathlib.Data.List.Sort
import UnitBinding.Proofs.ByteOrder
import UnitBinding.Proofs.TypeNames

set_option autoImplicit false

/-! # What a scan reports

A scan lists the types of a bundle as they are, the mapping descriptors among its entries, and the
packages of its types: in front of the last separator of each name stands a package, and behind it the
simple name. `splitLast?_eq_some_iff` says which separator is the last one, also where colons overlap.
The packages are in ascending order, each once, so they are determined by their members
(`sortedUnique_congr`), and by the set of the names in turn. -/

namespace UnitBinding

/-! ## Cutting at the last separator -/

/-- The last separator is the one with none behind it, not even one that shares a colon with it. -/
theorem splitLast?_eq_some_iff {cs path name : List Char} :
    splitLast? cs = some (path, name)
      ↔ cs = path ++ pathSeparator.toList ++ name ∧ ¬ pathSeparator.toList <:+: ':' :: name := by
  rw [← splitLast?_eq_none_iff]
  constructor
  · intro h
    have hcs := splitLast?_append h
    refine ⟨hcs, ?_⟩
    cases hlater : splitLast? (':' :: name) with
    | none => rfl
    | some parts =>
      -- a later separator would have made a shorter name
      obtain ⟨before, after⟩ := parts
      have hshifted : cs = (path ++ [':']) ++ ':' :: name := by
        rw [hcs, List.append_assoc, List.append_assoc]
        rfl
      have hcut := splitLast?_append_of_some hlater (path ++ [':'])
      rw [← hshifted, h] at hcut
      have hlength := congrArg List.length (splitLast?_append hlater)
      obtain rfl : name = after := congrArg Prod.snd (Option.some.inj hcut)
      simp [pathSeparator] at hlength
      omega
  · rintro ⟨rfl, hlater⟩
    obtain ⟨hname, hhead⟩ := splitLast?_cons_eq_none_iff.1 hlater
    have hcut := splitLast?_separator hname fun hcolon => hhead ⟨rfl, hcolon⟩
    have hwhole := splitLast?_append_of_some hcut path
    rw [List.append_nil] at hwhole
    rw [List.append_assoc]
    exact hwhole

/-- A path holds a separator. -/
def HasSeparator (path : String) : Prop := pathSeparator.toList <:+: path.toList

theorem packageOf?_eq_some_iff {path package : String} :
    packageOf? path = some package
      ↔ HasSeparator path ∧ path = package ++ pathSeparator ++ simpleNameOf path := by
  rw [packageOf?, HasSeparator, simpleNameOf]
  cases hcut : splitLast? path.toList with
  | none =>
    refine iff_of_false (by simp) fun h => ?_
    exact splitLast?_eq_none_iff.1 hcut h.1
  | some parts =>
    obtain ⟨before, after⟩ := parts
    have hpath := splitLast?_append hcut
    have hwhole : path = String.ofList before ++ pathSeparator ++ String.ofList after := by
      refine String.toList_injective ?_
      simpa using hpath
    have hseparator : pathSeparator.toList <:+: path.toList := ⟨before, after, hpath.symm⟩
    rw [Option.map_some, Option.some_inj, and_iff_right hseparator]
    constructor
    · rintro rfl
      exact hwhole
    · -- the separator and the simple name are the same, so the fronts are
      intro h
      have hfronts := congrArg String.toList (hwhole.symm.trans h)
      simp only [String.toList_append, List.append_assoc] at hfronts
      exact String.toList_injective (List.append_cancel_right hfronts)

theorem simpleNameOf_eq_iff {path name : String} :
    simpleNameOf path = name
      ↔ (¬ HasSeparator path ∧ name = path)
        ∨ ∃ package, path = package ++ pathSeparator ++ name
          ∧ ¬ pathSeparator.toList <:+: ':' :: name.toList := by
  rw [simpleNameOf, HasSeparator, ← splitLast?_eq_none_iff]
  cases hcut : splitLast? path.toList with
  | none =>
    refine ⟨fun h => Or.inl ⟨rfl, h.symm⟩, ?_⟩
    rintro (⟨-, rfl⟩ | ⟨package, rfl, -⟩)
    · rfl
    · exact absurd ⟨package.toList, name.toList, by simp⟩ (splitLast?_eq_none_iff.1 hcut)
  | some parts =>
    obtain ⟨before, after⟩ := parts
    obtain ⟨hpath, hlater⟩ := splitLast?_eq_some_iff.1 hcut
    constructor
    · rintro rfl
      refine Or.inr ⟨String.ofList before, String.toList_injective ?_, ?_⟩
      · simpa using hpath
      · rwa [String.toList_ofList]
    · rintro (⟨hnone, -⟩ | ⟨package, rfl, hlast⟩)
      · cases hnone
      · have hagain : splitLast? (package ++ pathSeparator ++ name).toList
            = some (package.toList, name.toList) :=
          splitLast?_eq_some_iff.2 ⟨by simp, hlast⟩
        rw [hagain] at hcut
        obtain rfl : name.toList = after := congrArg Prod.snd (Option.some.inj hcut)
        exact String.ofList_toList

/-! ## Ascending lists -/

theorem ascending_insertSorted {text : String} {sorted : List String}
    (h : sorted.Pairwise (· < ·)) : (insertSorted text sorted).Pairwise (· < ·) := by
  induction sorted with
  | nil => exact List.pairwise_singleton _ _
  | cons t rest ih =>
    obtain ⟨hhead, hrest⟩ := List.pairwise_cons.1 h
    rw [insertSorted]
    split
    · rename_i hlt
      refine List.pairwise_cons.2 ⟨fun a ha => ?_, h⟩
      rcases List.mem_cons.1 ha with rfl | ha
      · exact hlt
      · exact String.lt_trans hlt (hhead a ha)
    · rename_i hnot
      split
      · exact h
      · rename_i hne
        have hgreater : t < text := Std.lt_of_le_of_ne (String.not_lt.1 hnot) (Ne.symm hne)
        refine List.pairwise_cons.2 ⟨fun a ha => ?_, ih hrest⟩
        rcases mem_insertSorted.1 ha with rfl | ha
        · exact hgreater
        · exact hhead a ha

theorem ascending_sortedUnique (texts : List String) :
    (sortedUnique texts).Pairwise (· < ·) := by
  suffices hfold : ∀ sorted : List String, sorted.Pairwise (· < ·) →
      (texts.foldl (fun sorted text => insertSorted text sorted) sorted).Pairwise (· < ·) from
    hfold [] List.Pairwise.nil
  induction texts with
  | nil => exact fun sorted h => h
  | cons text rest ih => exact fun sorted h => ih _ (ascending_insertSorted h)

/-- An ascending list is known by its members. -/
theorem sortedUnique_congr {texts others : List String} (h : ∀ a, a ∈ texts ↔ a ∈ others) :
    sortedUnique texts = sortedUnique others :=
  List.Pairwise.eq_of_mem_iff (ascending_sortedUnique texts) (ascending_sortedUnique others)
    fun a => by rw [mem_sortedUnique, mem_sortedUnique, h]

/-! ## Scans -/

/-- A text ends in another one. -/
def EndsIn (ending text : String) : Prop := ending.toList <:+ text.toList

/-- The name of a mapping descriptor. -/
def IsMapping (entry : String) : Prop := EndsIn "orm.xml" entry ∨ EndsIn "hbm.xml" entry

theorem isMappingFile_iff {entry : String} : isMappingFile entry = true ↔ IsMapping entry := by
  simp [isMappingFile, mappingSuffixes, IsMapping, EndsIn]

instance (entry : String) : Decidable (IsMapping entry) := decidable_of_iff _ isMappingFile_iff

/-- A plain path. -/
def pathText (segments : List Identifier) : String := String.ofList (joinPath segments)

theorem splitLast?_pathText (modules : List Identifier) (name : Identifier) :
    splitLast? (pathText (modules ++ [name])).toList
      = (modulePath? modules).map fun path => (path, name.chars) := by
  have hcut := splitLast?_joinPath modules name (show splitLast? [] = none from rfl) (by simp)
  rw [List.append_nil, List.append_nil] at hcut
  rw [pathText, String.toList_ofList, hcut]

namespace Bundle

theorem isEmpty_scan_iff (bundle : Bundle) :
    bundle.scan.isEmpty = true
      ↔ bundle.typeNames = [] ∧ ∀ entry ∈ bundle.entries, ¬ IsMapping entry := by
  have hempty : bundle.scan.isEmpty = true
      ↔ bundle.typeNames = [] ∧ bundle.scan.packages = []
        ∧ bundle.entries.filter isMappingFile = [] := by
    simp [ScanResult.isEmpty, scan, and_assoc]
  have hmapping : bundle.entries.filter isMappingFile = []
      ↔ ∀ entry ∈ bundle.entries, ¬ IsMapping entry := by
    rw [List.filter_eq_nil_iff]
    exact forall₂_congr fun entry _ => not_congr isMappingFile_iff
  rw [hempty, hmapping]
  refine ⟨fun h => ⟨h.1, h.2.2⟩, fun h => ⟨h.1, ?_, h.2⟩⟩
  -- packages come from types only
  rw [scan, h.1]
  rfl

/-- **What a scan reports.** For every bundle:

    * the types are those of the bundle, in their order;
    * the packages ascend by their UTF-8 bytes, each of them once. Exactly what stands in front of the
      separator and the simple name of some type is a package, so that the three make up the name again,
      and every name with a separator has its package;
    * a simple name is the whole name if that holds no separator, and otherwise what is behind the last
      one, also where colons overlap. Of a plain path of identifiers the package is all but the last one,
      and a single identifier has none;
    * the mapping descriptors are the entries with one of the two endings, in their order;
    * nothing is found exactly if there are neither types nor mapping descriptors;
    * the same set of names gives the same packages. -/
theorem scan_report (bundle : Bundle) :
    let found := bundle.scan
    found.types = bundle.typeNames
      ∧ found.packages.Pairwise (fun first second => Text.bytes first < Text.bytes second)
      ∧ (∀ package, package ∈ found.packages ↔ ∃ name ∈ bundle.typeNames,
        HasSeparator name ∧ name = package ++ pathSeparator ++ (OwnerType.named name).simpleName)
      ∧ (∀ name ∈ bundle.typeNames, HasSeparator name → ∃ package ∈ found.packages,
        name = package ++ pathSeparator ++ (OwnerType.named name).simpleName)
      ∧ (∀ (owner : OwnerType) (name : String), owner.simpleName = name
        ↔ (¬ HasSeparator owner.name ∧ name = owner.name)
          ∨ ∃ package, owner.name = package ++ pathSeparator ++ name
            ∧ ¬ pathSeparator.toList <:+: ':' :: name.toList)
      ∧ (∀ (first : Identifier) (modules : List Identifier) (last : Identifier) (package : String),
        let path := pathText (first :: modules ++ [last])
        path = package ++ pathSeparator ++ (OwnerType.named path).simpleName
          ↔ package = pathText (first :: modules))
      ∧ (∀ name : Identifier, ¬ HasSeparator (pathText [name]))
      ∧ found.mappingFiles = bundle.entries.filter (fun entry => IsMapping entry)
      ∧ (found.isEmpty = true
        ↔ bundle.typeNames = [] ∧ ∀ entry ∈ bundle.entries, ¬ IsMapping entry)
      ∧ ∀ other : Bundle, (∀ name, name ∈ other.typeNames ↔ name ∈ bundle.typeNames) →
        other.scan.packages = found.packages := by
  intro found
  have hmem : ∀ package, package ∈ found.packages ↔ ∃ name ∈ bundle.typeNames,
      HasSeparator name ∧ name = package ++ pathSeparator ++ (OwnerType.named name).simpleName := by
    intro package
    refine mem_packages_scan.trans (exists_congr fun name => ?_)
    exact and_congr_right' packageOf?_eq_some_iff
  refine ⟨rfl, ?_, hmem, ?_, fun owner name => simpleNameOf_eq_iff, ?_, ?_, ?_,
    bundle.isEmpty_scan_iff, ?_⟩
  · exact (ascending_sortedUnique _).imp Text.bytes_lt_iff.2
  · intro name hname hseparator
    cases hcut : splitLast? name.toList with
    | none => exact absurd hseparator (splitLast?_eq_none_iff.1 hcut)
    | some parts =>
      have hpackage : packageOf? name = some (String.ofList parts.1) := by rw [packageOf?, hcut]; rfl
      have hparts := packageOf?_eq_some_iff.1 hpackage
      exact ⟨_, (hmem _).2 ⟨name, hname, hparts⟩, hparts.2⟩
  · intro first modules last package path
    have hcut : splitLast? path.toList = some (joinPath (first :: modules), last.chars) :=
      splitLast?_pathText (first :: modules) last
    have hpackage : packageOf? path = some (pathText (first :: modules)) := by
      rw [packageOf?, hcut]
      rfl
    have hseparator := (packageOf?_eq_some_iff.1 hpackage).1
    refine (and_iff_right hseparator).symm.trans ?_
    refine packageOf?_eq_some_iff.symm.trans ?_
    rw [hpackage, Option.some_inj]
    exact eq_comm
  · intro name hseparator
    exact splitLast?_eq_none_iff.1 (splitLast?_pathText [] name) hseparator
  · refine List.filter_congr fun entry _ => Bool.eq_iff_iff.2 ?_
    exact isMappingFile_iff.trans decide_eq_true_iff.symm
  · intro other hnames
    refine sortedUnique_congr fun package => ?_
    rw [List.mem_filterMap, List.mem_filterMap]
    exact exists_congr fun name => and_congr_left' (hnames name)

/-- A bundle with a type listed twice, colons that overlap, and a type outside of all modules. -/
def sampleScanned : Bundle :=
  { id := 9
    name := "billing"
    types := ["z::model::Late", "a:::b", "Plain", "z::model::Late", "::Root"].map
      fun name => (name, .named name)
    entries := ["META-INF/orm.xml", "README.md", "late.hbm.xml", "META-INF/orm.xml"] }

/-- The same names in another order, each once. -/
def sampleReordered : Bundle :=
  { sampleScanned with
    types := ["::Root", "Plain", "a:::b", "z::model::Late"].map fun name => (name, .named name) }

/-- The packages are found in byte order, one of them empty and one ending in a colon, and they do not
    depend on the order of the types. -/
theorem scan_report_reordered :
    (∀ name, name ∈ sampleReordered.typeNames ↔ name ∈ sampleScanned.typeNames)
      ∧ sampleReordered.scan.packages = sampleScanned.scan.packages
      ∧ sampleScanned.scan.packages = ["", "a:", "z::model"]
      ∧ "a:::b" = "a:" ++ pathSeparator ++ (OwnerType.named "a:::b").simpleName
      ∧ sampleScanned.scan.mappingFiles = ["META-INF/orm.xml", "late.hbm.xml", "META-INF/orm.xml"] := by
  have hnames : ∀ name, name ∈ sampleReordered.typeNames ↔ name ∈ sampleScanned.typeNames := by
    intro name
    simp only [typeNames, sampleReordered, sampleScanned, List.map_cons, List.map_nil, List.mem_cons,
      List.not_mem_nil]
    tauto
  obtain ⟨-, -, -, -, -, -, -, -, -, hset⟩ := scan_report sampleScanned
  exact ⟨hnames, hset sampleReordered hnames, by decide, by decide, by decide⟩

end Bundle

end UnitBinding
