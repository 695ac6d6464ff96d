import UnitBinding.Bundle

set_option autoImplicit false

/-! # Names of types with type arguments

The full name of a type is a path, and a path may end with type arguments in brackets. These are
names of types again, paths or other forms such as references and slices. `TypeName` is such a name
as a tree, and `TypeName.text` the text that it is written as.

Module paths and simple names are cut out of these texts at the *last* path separator. That is the
one in front of the name as long as there is none behind it. Identifiers hold no colon, and neither
brackets nor commas are part of a separator, so what decides is whether some type argument is
`Qualified`: at any depth, the separator of an argument draws the cut into the brackets. -/

namespace UnitBinding

/-! ## The last separator -/

/-- The last separator of a path is one of the rest, or else starts with the first character. -/
theorem splitLast?_cons (c : Char) (cs : List Char) :
    splitLast? (c :: cs) = ((splitLast? cs).map fun parts => (c :: parts.1, parts.2)).or
      (if c = ':' ∧ cs.head? = some ':' then some ([], cs.tail) else none) := by
  conv => lhs; unfold splitLast?
  cases splitLast? cs with
  | some parts => rfl
  | none =>
    rw [Option.map_none, Option.none_or]
    dsimp only
    split
    · rfl
    · rename_i hcolons
      refine (if_neg fun h => ?_).symm
      obtain ⟨tail, htail⟩ := List.head?_eq_some_iff.1 h.2
      exact hcolons tail h.1 htail

theorem splitLast?_cons_eq_none_iff {c : Char} {cs : List Char} :
    splitLast? (c :: cs) = none ↔ splitLast? cs = none ∧ ¬ (c = ':' ∧ cs.head? = some ':') := by
  rw [splitLast?_cons, Option.or_eq_none_iff, Option.map_eq_none_iff]
  simp

theorem splitLast?_eq_none_iff {cs : List Char} :
    splitLast? cs = none ↔ ¬ pathSeparator.toList <:+: cs := by
  induction cs with
  | nil => exact iff_of_true rfl (by decide)
  | cons c rest ih =>
    have hprefix : pathSeparator.toList <+: c :: rest ↔ c = ':' ∧ rest.head? = some ':' := by
      show [':', ':'] <+: c :: rest ↔ _
      cases rest <;> simp [List.cons_prefix_cons, eq_comm]
    rw [splitLast?_cons_eq_none_iff, ih, List.infix_cons_iff, hprefix, not_or, and_comm]

/-- A separator with none behind it is the last one. -/
theorem splitLast?_separator {name : List Char} (hname : splitLast? name = none)
    (hhead : name.head? ≠ some ':') :
    splitLast? (pathSeparator.toList ++ name) = some ([], name) := by
  have hcolon : splitLast? (':' :: name) = none :=
    splitLast?_cons_eq_none_iff.2 ⟨hname, fun h => hhead h.2⟩
  show splitLast? (':' :: ':' :: name) = _
  rw [splitLast?_cons, hcolon]
  rfl

/-- The last separator of the second of two texts is the last one of both. -/
theorem splitLast?_append_of_some {cs path name : List Char} (h : splitLast? cs = some (path, name))
    (before : List Char) : splitLast? (before ++ cs) = some (before ++ path, name) := by
  induction before with
  | nil => exact h
  | cons c rest ih =>
    rw [List.cons_append, splitLast?_cons, ih]
    rfl

/-- Two texts that do not meet in a colon have a separator if one of them has. -/
theorem splitLast?_append_eq_none_iff {before cs : List Char} (hhead : cs.head? ≠ some ':') :
    splitLast? (before ++ cs) = none ↔ splitLast? before = none ∧ splitLast? cs = none := by
  induction before with
  | nil => simp [splitLast?]
  | cons c rest ih =>
    rw [List.cons_append, splitLast?_cons_eq_none_iff, splitLast?_cons_eq_none_iff, ih]
    -- a colon behind `c` is one of the first text, also where that ends with `c`
    have hmeet : (rest ++ cs).head? = some ':' ↔ rest.head? = some ':' := by
      cases rest with
      | nil => simpa using hhead
      | cons d more => rfl
    rw [hmeet, and_right_comm]

theorem splitLast?_name_eq_none {cs path name : List Char} (h : splitLast? cs = some (path, name)) :
    splitLast? name = none := by
  induction cs generalizing path with
  | nil => cases h
  | cons c rest ih =>
    rw [splitLast?_cons] at h
    cases hrest : splitLast? rest with
    | some parts =>
      rw [hrest] at h
      cases h
      exact ih hrest
    | none =>
      -- the separator starts here, and what is behind it is part of the rest
      rw [hrest] at h
      obtain ⟨hcolons, hparts⟩ := Option.ite_none_right_eq_some.1 h
      obtain ⟨tail, rfl⟩ := List.head?_eq_some_iff.1 hcolons.2
      cases hparts
      exact (splitLast?_cons_eq_none_iff.1 hrest).1

/-! ## Type names -/

/-- The characters that are punctuation in type names. -/
def namePunctuation : List Char := [':', '<', '>', ',', ' ']

/-- The name of a module, or of a type in it. -/
structure Identifier where
  chars : List Char
  ne_nil : chars ≠ []
  plain : ∀ c ∈ chars, c ∉ namePunctuation

/-- The name of a type. -/
inductive TypeName where
  /-- A name in a module, with type arguments in brackets if there are any. -/
  | path (modules : List Identifier) (name : Identifier) (arguments : List TypeName)
  /-- A type of another form, as it is written. -/
  | other (written : List Char)

/-- Identifiers with separators between them. -/
def joinPath (identifiers : List Identifier) : List Char :=
  pathSeparator.toList.intercalate (identifiers.map (·.chars))

/-- The path of a module, if it has one. -/
def modulePath? : List Identifier → Option (List Char)
  | [] => none
  | first :: modules => some (joinPath (first :: modules))

/-- Type arguments in brackets. -/
def bracketed : List (List Char) → List Char
  | [] => []
  | first :: rest => '<' :: ([',', ' '].intercalate (first :: rest) ++ ['>'])

namespace TypeName

mutual

/-- The characters of the name of a type. -/
def chars : TypeName → List Char
  | .path modules name arguments =>
    joinPath (modules ++ [name]) ++ bracketed (argumentChars arguments)
  | .other written => written

/-- The characters of each type argument. -/
def argumentChars : List TypeName → List (List Char)
  | [] => []
  | argument :: rest => argument.chars :: argumentChars rest

end

/-- The text of the name of a type. -/
def text (type : TypeName) : String := String.ofList type.chars

theorem argumentChars_eq_map (arguments : List TypeName) :
    argumentChars arguments = arguments.map chars := by
  induction arguments with
  | nil => rfl
  | cons argument rest ih => rw [argumentChars, ih, List.map_cons]

/-- Induction over a name, with a hypothesis for each type argument. -/
@[elab_as_elim]
theorem byArguments {motive : TypeName → Prop}
    (path : ∀ modules name arguments, (∀ argument ∈ arguments, motive argument) →
      motive (.path modules name arguments))
    (other : ∀ written, motive (.other written)) : ∀ type, motive type
  | .path modules name arguments =>
    path modules name arguments fun argument _ => byArguments path other argument
  | .other written => other written

/-- A name that holds a path separator: a path with modules, one with a type argument that holds
    one, or a type of another form that is written with one. -/
inductive Qualified : TypeName → Prop where
  | inModule (first : Identifier) (modules : List Identifier) (name : Identifier)
    (arguments : List TypeName) : Qualified (.path (first :: modules) name arguments)
  | argument (modules : List Identifier) (name : Identifier) {arguments : List TypeName}
    {argument : TypeName} (hmem : argument ∈ arguments) (h : Qualified argument) :
    Qualified (.path modules name arguments)
  | other {written : List Char} (h : pathSeparator.toList <:+: written) :
    Qualified (.other written)

end TypeName

/-! ## Separators in type names -/

namespace Identifier

theorem colon_not_mem (identifier : Identifier) : ':' ∉ identifier.chars :=
  fun h => identifier.plain ':' h (by decide)

theorem head?_ne (identifier : Identifier) (rest : List Char) :
    (identifier.chars ++ rest).head? ≠ some ':' := by
  intro h
  obtain ⟨c, more, hchars⟩ := List.exists_cons_of_ne_nil identifier.ne_nil
  rw [hchars, List.cons_append, List.head?_cons] at h
  refine identifier.colon_not_mem ?_
  rw [hchars, Option.some.inj h]
  exact List.mem_cons_self

theorem splitLast?_chars (identifier : Identifier) : splitLast? identifier.chars = none := by
  rw [splitLast?_eq_none_iff]
  intro h
  exact identifier.colon_not_mem (h.subset (by decide))

end Identifier

theorem joinPath_singleton (name : Identifier) : joinPath [name] = name.chars := by
  unfold joinPath
  rw [List.map_singleton, List.intercalate_singleton]

/-- The last identifier of a path stands behind the others and a separator. -/
theorem joinPath_concat (first : Identifier) (modules : List Identifier) (name : Identifier) :
    joinPath (first :: modules ++ [name])
      = joinPath (first :: modules) ++ (pathSeparator.toList ++ name.chars) := by
  induction modules generalizing first with
  | nil => simp [joinPath, List.intercalate_cons_cons, List.intercalate_singleton]
  | cons second rest ih =>
    have hcons : ∀ more, joinPath (first :: second :: more)
        = first.chars ++ pathSeparator.toList ++ joinPath (second :: more) :=
      fun more => List.intercalate_cons_cons
    simp only [List.cons_append, hcons] at ih ⊢
    simp only [ih, List.append_assoc]

/-- The cut of a path whose arguments hold no separator: between the modules and the name. -/
theorem splitLast?_joinPath (modules : List Identifier) (name : Identifier) {rest : List Char}
    (hrest : splitLast? rest = none) (hhead : rest.head? ≠ some ':') :
    splitLast? (joinPath (modules ++ [name]) ++ rest)
      = (modulePath? modules).map fun path => (path, name.chars ++ rest) := by
  have hname : splitLast? (name.chars ++ rest) = none :=
    (splitLast?_append_eq_none_iff hhead).2 ⟨name.splitLast?_chars, hrest⟩
  cases modules with
  | nil =>
    rw [List.nil_append, joinPath_singleton, hname]
    rfl
  | cons first modules =>
    rw [joinPath_concat, List.append_assoc, List.append_assoc]
    have hcut := splitLast?_append_of_some (splitLast?_separator hname (name.head?_ne rest))
      (joinPath (first :: modules))
    rw [hcut, List.append_nil]
    rfl

theorem splitLast?_cons_of_ne {c : Char} (hc : c ≠ ':') {cs : List Char} :
    splitLast? (c :: cs) = none ↔ splitLast? cs = none := by
  rw [splitLast?_cons_eq_none_iff]
  exact and_iff_left fun h => hc h.1

/-- Commas between texts make no separator. -/
theorem splitLast?_intercalate_eq_none_iff (texts : List (List Char)) :
    splitLast? ([',', ' '].intercalate texts) = none ↔ ∀ text ∈ texts, splitLast? text = none := by
  induction texts with
  | nil => exact iff_of_true rfl (fun _ h => absurd h List.not_mem_nil)
  | cons first rest ih =>
    cases rest with
    | nil => rw [List.intercalate_singleton, List.forall_mem_singleton]
    | cons second more =>
      rw [List.intercalate_cons_cons, List.append_assoc,
        splitLast?_append_eq_none_iff (by simp), List.forall_mem_cons, ← ih]
      exact and_congr_right' ((splitLast?_cons_of_ne (by decide)).trans
        (splitLast?_cons_of_ne (by decide)))

theorem splitLast?_bracketed_eq_none_iff (texts : List (List Char)) :
    splitLast? (bracketed texts) = none ↔ ∀ text ∈ texts, splitLast? text = none := by
  cases texts with
  | nil => exact iff_of_true rfl (fun _ h => absurd h List.not_mem_nil)
  | cons first rest =>
    rw [bracketed, splitLast?_cons_of_ne (by decide), splitLast?_append_eq_none_iff (by decide),
      splitLast?_intercalate_eq_none_iff]
    exact and_iff_left rfl

theorem head?_bracketed (texts : List (List Char)) : (bracketed texts).head? ≠ some ':' := by
  cases texts <;> simp [bracketed]

namespace TypeName

theorem qualified_path_iff {modules : List Identifier} {name : Identifier}
    {arguments : List TypeName} :
    (path modules name arguments).Qualified
      ↔ modules ≠ [] ∨ ∃ argument ∈ arguments, argument.Qualified := by
  constructor
  · rintro (⟨first, modules, -, -⟩ | ⟨-, -, hmem, h⟩ | -)
    · exact Or.inl (List.cons_ne_nil first modules)
    · exact Or.inr ⟨_, hmem, h⟩
  · rintro (h | ⟨argument, hmem, h⟩)
    · obtain ⟨first, rest, rfl⟩ := List.exists_cons_of_ne_nil h
      exact .inModule first rest name arguments
    · exact .argument modules name hmem h

/-- **Separators in a type name.** The text of a name holds a separator exactly if the tree says
    so: writing it down makes none out of neighbours. -/
theorem splitLast?_chars_eq_none_iff (type : TypeName) :
    splitLast? type.chars = none ↔ ¬ type.Qualified := by
  induction type using byArguments with
  | path modules name arguments ih =>
    -- brackets and commas keep the three places apart where a separator can come from
    have hmodules : splitLast? (joinPath (modules ++ [name])) = none ↔ modules = [] := by
      have hcut := splitLast?_joinPath modules name (show splitLast? [] = none from rfl) (by simp)
      rw [List.append_nil] at hcut
      rw [hcut]
      cases modules <;> simp [modulePath?]
    have harguments : (∀ text ∈ arguments.map chars, splitLast? text = none)
        ↔ ∀ argument ∈ arguments, ¬ argument.Qualified := by
      rw [List.forall_mem_map]
      exact forall₂_congr ih
    rw [chars, argumentChars_eq_map, splitLast?_append_eq_none_iff (head?_bracketed _), hmodules,
      splitLast?_bracketed_eq_none_iff, harguments, qualified_path_iff]
    simp only [ne_eq, not_or, Classical.not_not, not_exists, not_and]
  | other written =>
    rw [chars, splitLast?_eq_none_iff]
    exact not_congr ⟨.other, fun h => by cases h; assumption⟩

end TypeName

/-! ## Module paths and simple names -/

theorem mem_sortedUnique {a : String} {texts : List String} :
    a ∈ sortedUnique texts ↔ a ∈ texts := by
  have hfold : ∀ sorted : List String,
      a ∈ texts.foldl (fun sorted text => insertSorted text sorted) sorted
        ↔ a ∈ sorted ∨ a ∈ texts := by
    induction texts with
    | nil => simp
    | cons text rest ih =>
      intro sorted
      rw [List.foldl_cons, ih, mem_insertSorted, List.mem_cons, or_comm (a := a = text), or_assoc]
  rw [sortedUnique, hfold, or_iff_right List.not_mem_nil]

theorem Bundle.mem_packages_scan {bundle : Bundle} {package : String} :
    package ∈ bundle.scan.packages
      ↔ ∃ name ∈ bundle.typeNames, packageOf? name = some package := by
  show package ∈ sortedUnique (bundle.typeNames.filterMap packageOf?) ↔ _
  rw [mem_sortedUnique, List.mem_filterMap]

namespace TypeName

/-- A type with a name. -/
def owner (type : TypeName) (index : Nat) : OwnerType := ⟨type.text, index⟩

theorem simpleName_owner (type : TypeName) (index : Nat) :
    (type.owner index).simpleName = match splitLast? type.chars with
      | some (_, rest) => String.ofList rest
      | none => type.text := by
  show (match splitLast? type.text.toList with
    | some (_, name) => String.ofList name
    | none => type.text) = _
  rw [text, String.toList_ofList]

theorem packageOf?_text (type : TypeName) :
    packageOf? type.text = (splitLast? type.chars).map fun parts => String.ofList parts.1 := by
  unfold packageOf? text
  rw [String.toList_ofList]

section

variable (modules : List Identifier) (name : Identifier) {arguments : List TypeName} (index : Nat)

theorem text_without_modules : (path [] name arguments).text
    = String.ofList (name.chars ++ bracketed (arguments.map chars)) := by
  unfold text
  rw [chars, argumentChars_eq_map, List.nil_append, joinPath_singleton]

/-- Without a separator in the arguments both are cut where they should be. -/
theorem names_of_not_qualified (h : ¬ ∃ argument ∈ arguments, argument.Qualified) :
    ((path modules name arguments).owner index).simpleName = (path [] name arguments).text
      ∧ packageOf? (path modules name arguments).text
        = (modulePath? modules).map String.ofList := by
  have harguments : splitLast? (bracketed (arguments.map chars)) = none := by
    rw [splitLast?_bracketed_eq_none_iff, List.forall_mem_map]
    exact fun argument hmem =>
      (splitLast?_chars_eq_none_iff argument).2 fun hargument => h ⟨argument, hmem, hargument⟩
  have hcut := splitLast?_joinPath modules name harguments (head?_bracketed _)
  rw [simpleName_owner, packageOf?_text, text_without_modules, chars, argumentChars_eq_map, hcut]
  cases modules with
  | nil => exact ⟨text_without_modules name, rfl⟩
  | cons first modules => exact ⟨rfl, rfl⟩

/-- With one, both are cut within the brackets. -/
theorem names_of_qualified (h : ∃ argument ∈ arguments, argument.Qualified) :
    ∃ before after, bracketed (arguments.map chars) = before ++ pathSeparator.toList ++ after
      ∧ splitLast? after = none
      ∧ ((path modules name arguments).owner index).simpleName = String.ofList after
      ∧ packageOf? (path modules name arguments).text
        = some (String.ofList (joinPath (modules ++ [name]) ++ before)) := by
  cases hcut : splitLast? (bracketed (arguments.map chars)) with
  | none =>
    obtain ⟨argument, hmem, hqualified⟩ := h
    rw [splitLast?_bracketed_eq_none_iff, List.forall_mem_map] at hcut
    exact absurd hqualified ((splitLast?_chars_eq_none_iff argument).1 (hcut argument hmem))
  | some parts =>
    obtain ⟨before, after⟩ := parts
    have hwhole := splitLast?_append_of_some hcut (joinPath (modules ++ [name]))
    refine ⟨before, after, splitLast?_append hcut, splitLast?_name_eq_none hcut, ?_, ?_⟩
    · rw [simpleName_owner, chars, argumentChars_eq_map, hwhole]
    · rw [packageOf?_text, chars, argumentChars_eq_map, hwhole]
      rfl

/-- What is left within the brackets is not the name … -/
theorem text_ne_of_bracketed {before after : List Char}
    (h : bracketed (arguments.map chars) = before ++ pathSeparator.toList ++ after) :
    String.ofList after ≠ (path [] name arguments).text := by
  rw [text_without_modules, h]
  intro htext
  have hlength := congrArg List.length (String.ofList_injective htext)
  simp [pathSeparator] at hlength
  omega

/-- … and a module path does not go on into them. -/
theorem modulePath?_ne (before : List Char) :
    some (String.ofList (joinPath (modules ++ [name]) ++ before))
      ≠ (modulePath? modules).map String.ofList := by
  cases modules with
  | nil => exact nofun
  | cons first rest =>
    intro h
    have hlength := congrArg List.length (String.ofList_injective (Option.some.inj h))
    rw [joinPath_concat] at hlength
    simp [pathSeparator] at hlength

end

/-- **Module path and simple name.** The name of a type without its module path, and the module path
    that a scan reports as its package, are those of the outermost path exactly if no type argument
    holds a separator at any depth. Otherwise the last separator within the brackets makes the cut,
    and the two parts are what is before and after it. -/
theorem simpleName_and_package_iff (modules : List Identifier) (name : Identifier)
    (arguments : List TypeName) (index : Nat) :
    let type := path modules name arguments
    ((type.owner index).simpleName = (path [] name arguments).text
        ↔ ¬ ∃ argument ∈ arguments, argument.Qualified)
      ∧ (packageOf? type.text = (modulePath? modules).map String.ofList
        ↔ ¬ ∃ argument ∈ arguments, argument.Qualified)
      ∧ ((∃ argument ∈ arguments, argument.Qualified) →
        ∃ before after, bracketed (arguments.map chars) = before ++ pathSeparator.toList ++ after
          ∧ splitLast? after = none
          ∧ (type.owner index).simpleName = String.ofList after
          ∧ packageOf? type.text = some (String.ofList (joinPath (modules ++ [name]) ++ before)))
      ∧ ∀ (bundle : Bundle) (package : String), package ∈ bundle.scan.packages
        ↔ ∃ name ∈ bundle.typeNames, packageOf? name = some package := by
  intro type
  refine ⟨⟨?_, fun h => (names_of_not_qualified modules name index h).1⟩,
    ⟨?_, fun h => (names_of_not_qualified modules name index h).2⟩,
    names_of_qualified modules name index, fun bundle package => Bundle.mem_packages_scan⟩
  · intro hname hqualified
    obtain ⟨before, after, hbrackets, -, hsimple, -⟩ :=
      names_of_qualified modules name index hqualified
    exact text_ne_of_bracketed name hbrackets (hsimple.symm.trans hname)
  · intro hname hqualified
    obtain ⟨before, after, -, -, -, hpackage⟩ :=
      names_of_qualified modules name index hqualified
    exact modulePath?_ne modules name before (hpackage.symm.trans hname)

/-- A module … -/
def sampleModule : Identifier := ⟨['m'], by simp, by simp [namePunctuation]⟩

/-- … and a type in it. -/
def sampleKey : TypeName := path [sampleModule] ⟨['I', 'd'], by simp, by simp [namePunctuation]⟩ []

/-- The name of a type with arguments. -/
def sampleName : Identifier := ⟨['O', 'f'], by simp, by simp [namePunctuation]⟩

/-- A type with another one of its module as its argument is cut within the brackets. -/
theorem simpleName_and_package_nested :
    let type := path [sampleModule] sampleName [sampleKey]
    type.text = "m::Of<m::Id>"
      ∧ (type.owner 0).simpleName ≠ "Of<m::Id>"
      ∧ packageOf? type.text ≠ some "m"
      ∧ ∃ before after, "<m::Id>".toList = before ++ "::".toList ++ after
        ∧ (type.owner 0).simpleName = String.ofList after
        ∧ packageOf? type.text = some (String.ofList ("m::Of".toList ++ before)) := by
  intro type
  have hqualified : ∃ argument ∈ [sampleKey], argument.Qualified :=
    ⟨sampleKey, List.mem_singleton_self sampleKey, .inModule _ _ _ _⟩
  obtain ⟨hsimple, hpackage, hcut, -⟩ :=
    simpleName_and_package_iff [sampleModule] sampleName [sampleKey] 0
  obtain ⟨before, after, hbrackets, -, hsimpleAt, hpackageAt⟩ := hcut hqualified
  refine ⟨by decide, ?_, ?_, before, after, hbrackets, hsimpleAt, hpackageAt⟩
  · exact fun h => hsimple.1 (h.trans (by decide)) hqualified
  · exact fun h => hpackage.1 (h.trans (by decide)) hqualified

end TypeName

end UnitBinding
