import Mathlib.Data.List.Nodup
import UnitBinding.Config.Environment
import UnitBinding.Proofs.Config.Setting

set_option autoImplicit false

/-! # Settings in layers

Layers are joined table by table, and settings are two tables deep. `find_overlayMembers` says what that
comes to: of each setting by itself the upper layer's value counts, or else the lower one's. It needs
that the lower layer has tables where sections are, and that the upper one is `Keyed`: its sections are
tables, and no key occurs twice. A variable that names a setting, or has nothing to do with any, makes
such a layer (`keyed_nest`), and laid over each other they stay one (`Keyed.overlay`). -/

namespace UnitBinding

/-! ## Keys -/

theorem Table.mem_keys_setIn {α : Type} {key k : String} {value : α} {pairs : List (String × α)} :
    k ∈ (Table.setIn key value pairs).map Prod.fst ↔ k = key ∨ k ∈ pairs.map Prod.fst := by
  induction pairs with
  | nil => simp [setIn]
  | cons pair rest ih =>
    rw [setIn]
    split
    · rename_i hkey
      simp [hkey]
    · rw [List.map_cons, List.mem_cons, ih, List.map_cons, List.mem_cons]
      exact or_left_comm

/-- Setting a key does not make another one. -/
theorem Table.nodup_setIn {α : Type} {key : String} {value : α} {pairs : List (String × α)}
    (h : (pairs.map Prod.fst).Nodup) : ((Table.setIn key value pairs).map Prod.fst).Nodup := by
  induction pairs with
  | nil => exact List.nodup_singleton _
  | cons pair rest ih =>
    rw [List.map_cons, List.nodup_cons] at h
    rw [setIn]
    split
    · rename_i hkey
      rw [List.map_cons, List.nodup_cons, ← hkey]
      exact h
    · rename_i hkey
      rw [List.map_cons, List.nodup_cons, mem_keys_setIn]
      exact ⟨not_or.2 ⟨hkey, h.1⟩, ih h.2⟩

/-- A new key comes last … -/
theorem Table.setIn_of_not_mem {α : Type} {key : String} {value : α} {pairs : List (String × α)}
    (h : key ∉ pairs.map Prod.fst) : Table.setIn key value pairs = pairs ++ [(key, value)] := by
  induction pairs with
  | nil => rfl
  | cons pair rest ih =>
    rw [List.map_cons, List.mem_cons, not_or] at h
    rw [setIn, if_neg (Ne.symm h.1), ih h.2]
    rfl

/-- … and had no value before. -/
theorem Table.findIn_of_not_mem {α : Type} {key : String} {pairs : List (String × α)}
    (h : key ∉ pairs.map Prod.fst) : Table.findIn key pairs = none := by
  induction pairs with
  | nil => rfl
  | cons pair rest ih =>
    rw [List.map_cons, List.mem_cons, not_or] at h
    rw [findIn, if_neg (Ne.symm h.1), ih h.2]

namespace ConfigTree

/-! ## Joining two layers -/

/-- A tree over the one below it, if there is one. -/
def onTop (below : Option ConfigTree) (upper : ConfigTree) : ConfigTree :=
  match below with
  | none => upper
  | some lower => overlay lower upper

theorem asValue_onTop (below : Option ConfigTree) (upper : ConfigTree) :
    (onTop below upper).asValue = upper.asValue := by
  cases below with
  | none => rfl
  | some lower => cases upper <;> cases lower <;> simp [onTop, overlay, asValue]

theorem nodup_overlayMembers {below upper : List (String × ConfigTree)}
    (h : (below.map Prod.fst).Nodup) : ((overlayMembers below upper).map Prod.fst).Nodup := by
  induction upper generalizing below with
  | nil =>
    rw [overlayMembers]
    exact h
  | cons pair rest ih =>
    rw [overlayMembers]
    exact ih (Table.nodup_setIn h)

/-- Under each key both layers are joined by themselves. -/
theorem findIn_overlayMembers {upper : List (String × ConfigTree)}
    (h : (upper.map Prod.fst).Nodup) (below : List (String × ConfigTree)) (key : String) :
    Table.findIn key (overlayMembers below upper)
      = ((Table.findIn key upper).map (onTop (Table.findIn key below))).or
        (Table.findIn key below) := by
  induction upper generalizing below with
  | nil => rw [overlayMembers, Table.findIn, Option.map_none, Option.none_or]
  | cons pair rest ih =>
    obtain ⟨k, tree⟩ := pair
    rw [List.map_cons, List.nodup_cons] at h
    rw [overlayMembers, ih h.2, Table.findIn]
    by_cases hkey : k = key
    · subst hkey
      rw [Table.findIn_of_not_mem h.1, Table.findIn_setIn_self, if_pos rfl]
      rfl
    · rw [Table.findIn_setIn_of_ne k key _ _ (Ne.symm hkey), if_neg hkey]

/-- Nothing changes over an empty table. -/
theorem overlayMembers_nil {upper : List (String × ConfigTree)} (h : (upper.map Prod.fst).Nodup) :
    overlayMembers [] upper = upper := by
  -- the keys taken over so far are not met again
  suffices happend : ∀ taken : List (String × ConfigTree),
      ((taken ++ upper).map Prod.fst).Nodup → overlayMembers taken upper = taken ++ upper from
    happend [] h
  clear h
  induction upper with
  | nil =>
    intro taken _
    rw [overlayMembers, List.append_nil]
  | cons pair rest ih =>
    intro taken htaken
    obtain ⟨k, tree⟩ := pair
    have hnew : k ∉ taken.map Prod.fst := by
      intro hmem
      rw [List.map_append, List.nodup_append] at htaken
      exact htaken.2.2 k hmem k List.mem_cons_self rfl
    rw [List.append_cons] at htaken ⊢
    rw [overlayMembers, Table.findIn_of_not_mem hnew, Table.setIn_of_not_mem hnew, ih _ htaken]

/-- A layer that can be laid over another: the sections are tables, and no key occurs twice, at the root
    and in the sections. -/
structure Keyed (members : List (String × ConfigTree)) : Prop where
  distinct : (members.map Prod.fst).Nodup
  sections : SectionsOpen members
  inner : ∀ s : Setting, ((sectionIn s.sectionName members).map Prod.fst).Nodup

theorem keyed_nil : Keyed [] where
  distinct := List.nodup_nil
  sections _ _ h := by cases h
  inner _ := List.nodup_nil

/-- The members of a section are those of both layers, joined. -/
theorem sectionIn_overlayMembers {below upper : List (String × ConfigTree)}
    (hbelow : SectionsOpen below) (hupper : Keyed upper) (s : Setting) :
    sectionIn s.sectionName (overlayMembers below upper)
      = overlayMembers (sectionIn s.sectionName below) (sectionIn s.sectionName upper) := by
  have hinner := hupper.inner s
  rw [sectionIn, findIn_overlayMembers hupper.distinct, sectionIn, sectionIn] at *
  cases habove : Table.findIn s.sectionName upper with
  | none => rfl
  | some tree =>
    obtain ⟨origin, inner, rfl⟩ := hupper.sections s tree habove
    rw [habove] at hinner
    cases hlower : Table.findIn s.sectionName below with
    | none => exact (overlayMembers_nil hinner).symm
    | some lower =>
      -- both sections are tables, so neither replaces the other
      obtain ⟨other, members, rfl⟩ := hbelow s lower hlower
      simp [onTop, overlay, ConfigTree.members]

theorem sectionsOpen_overlayMembers {below upper : List (String × ConfigTree)}
    (hbelow : SectionsOpen below) (hupper : Keyed upper) :
    SectionsOpen (overlayMembers below upper) := by
  intro s tree htree
  rw [findIn_overlayMembers hupper.distinct] at htree
  cases habove : Table.findIn s.sectionName upper with
  | none =>
    rw [habove] at htree
    exact hbelow s tree htree
  | some top =>
    obtain ⟨origin, inner, rfl⟩ := hupper.sections s top habove
    rw [habove] at htree
    obtain rfl := Option.some.inj htree
    cases hlower : Table.findIn s.sectionName below with
    | none => exact ⟨origin, inner, rfl⟩
    | some lower =>
      obtain ⟨other, members, rfl⟩ := hbelow s lower hlower
      exact ⟨origin, overlayMembers members inner, by rw [onTop, overlay]⟩

/-- Layers over each other make up a layer. -/
theorem Keyed.overlay {below upper : List (String × ConfigTree)} (hbelow : Keyed below)
    (hupper : Keyed upper) : Keyed (overlayMembers below upper) where
  distinct := nodup_overlayMembers hbelow.distinct
  sections := sectionsOpen_overlayMembers hbelow.sections hupper
  inner s := by
    rw [sectionIn_overlayMembers hbelow.sections hupper]
    exact nodup_overlayMembers (hbelow.inner s)

/-- **Settings are layered one by one.** -/
theorem find_overlayMembers {below upper : List (String × ConfigTree)}
    (hbelow : SectionsOpen below) (hupper : Keyed upper) (s : Setting) :
    s.find (overlayMembers below upper) = (s.find upper).or (s.find below) := by
  rw [Setting.find, sectionIn_overlayMembers hbelow hupper, findIn_overlayMembers (hupper.inner s)]
  rw [Setting.find, Setting.find]
  cases Table.findIn s.key (sectionIn s.sectionName upper) with
  | none => rfl
  | some tree =>
    simp only [Option.map_some, Option.some_or, asValue_onTop]

end ConfigTree

/-! ## Values of a source -/

/-- What a setting sees of a value: of a table only that it is one. -/
def ConfigValue.outline : ConfigValue → ConfigValue
  | .table _ => .table []
  | value => value

theorem ConfigTree.asValue_ofValue (origin : Origin) (value : ConfigValue) :
    (ofValue origin value).asValue = (origin, value.outline) := by
  cases value <;> simp [ofValue, asValue, ConfigValue.outline]

namespace Setting

/-- No setting is a table, and none tells one table from another. -/
theorem convert_outline (s : Setting) (found : Option ConfigValue) :
    s.convert (found.map ConfigValue.outline) = s.convert found := by
  cases found with
  | none => rfl
  | some value => cases value <;> cases s <;> rfl

end Setting

/-! ### Files -/

theorem Table.findIn_ofTomlMembers (key : String) (members : List (String × Toml.Value)) :
    Table.findIn key (ConfigValue.ofTomlMembers members)
      = (Table.findIn key members).map ConfigValue.ofToml := by
  induction members with
  | nil => rw [ConfigValue.ofTomlMembers, findIn, findIn, Option.map_none]
  | cons member rest ih =>
    obtain ⟨k, value⟩ := member
    rw [ConfigValue.ofTomlMembers, findIn, findIn]
    split
    · rfl
    · exact ih

theorem Table.findIn_ofMembers (origin : Origin) (key : String)
    (members : List (String × ConfigValue)) :
    Table.findIn key (ConfigTree.ofMembers origin members)
      = (Table.findIn key members).map (ConfigTree.ofValue origin) := by
  induction members with
  | nil => rw [ConfigTree.ofMembers, findIn, findIn, Option.map_none]
  | cons member rest ih =>
    obtain ⟨k, value⟩ := member
    rw [ConfigTree.ofMembers, findIn, findIn]
    split
    · rfl
    · exact ih

/-- The value of a setting in a file. -/
def Setting.inFile (s : Setting) (members : List (String × Toml.Value)) : Option ConfigValue :=
  match Table.findIn s.sectionName members with
  | some (.table inner) => (Table.findIn s.key inner).map ConfigValue.ofToml
  | _ => none

/-- The sections of a file are tables where they are present. -/
def Toml.SectionsOpen (members : List (String × Toml.Value)) : Prop :=
  ∀ (s : Setting) (value : Toml.Value), Table.findIn s.sectionName members = some value →
    ∃ inner, value = .table inner

/-- The layer of a file. -/
def ConfigTree.ofFile (path : String) (members : List (String × Toml.Value)) :
    List (String × ConfigTree) :=
  ofMembers (.file path) (ConfigValue.ofTomlMembers members)

theorem ConfigTree.findIn_ofFile (path key : String) (members : List (String × Toml.Value)) :
    Table.findIn key (ofFile path members)
      = (Table.findIn key members).map fun value => ofValue (.file path) (.ofToml value) := by
  rw [ofFile, Table.findIn_ofMembers, Table.findIn_ofTomlMembers, Option.map_map]
  rfl

theorem ConfigTree.sectionsOpen_ofFile {members : List (String × Toml.Value)}
    (h : Toml.SectionsOpen members) (path : String) : SectionsOpen (ofFile path members) := by
  intro s tree htree
  rw [findIn_ofFile] at htree
  obtain ⟨value, hvalue, rfl⟩ := Option.map_eq_some_iff.1 htree
  obtain ⟨inner, rfl⟩ := h s value hvalue
  exact ⟨_, _, by rw [ConfigValue.ofToml, ofValue]⟩

theorem Setting.find_ofFile {members : List (String × Toml.Value)}
    (h : Toml.SectionsOpen members) (path : String) (s : Setting) :
    s.find (ConfigTree.ofFile path members) = (s.inFile members).map ConfigValue.outline := by
  rw [find, ConfigTree.sectionIn, ConfigTree.findIn_ofFile, inFile]
  cases hsection : Table.findIn s.sectionName members with
  | none => rfl
  | some value =>
    obtain ⟨inner, rfl⟩ := h s value hsection
    simp only [Option.map_some, Option.getD_some, ConfigValue.ofToml, ConfigTree.ofValue,
      ConfigTree.members]
    rw [← ConfigTree.ofFile, ConfigTree.findIn_ofFile]
    cases Table.findIn s.key inner with
    | none => rfl
    | some value => simp only [Option.map_some, ConfigTree.asValue_ofValue]

/-! ### Variables -/

/-- Keys that have nothing to do with a setting: they lead neither towards it nor beyond it. -/
def Setting.Apart (s : Setting) (keys : List String) : Prop :=
  ¬ keys <+: s.path ∧ ¬ s.path <+: keys

/-- Keys that name a setting, or have nothing to do with any. -/
def Setting.Regular (keys : List String) : Prop :=
  (∃ s : Setting, keys = s.path) ∨ ∀ s : Setting, s.Apart keys

/-- Seen from one setting, regular keys name it or have nothing to do with it. -/
theorem Setting.Regular.eq_or_apart {keys : List String} (h : Regular keys) (s : Setting) :
    keys = s.path ∨ s.Apart keys := by
  rcases h with ⟨other, rfl⟩ | hall
  · by_cases hpath : other.path = s.path
    · exact Or.inl hpath
    · -- all settings are equally deep, so no path leads beyond another
      exact Or.inr ⟨fun hlead => hpath (hlead.eq_of_length rfl),
        fun hlead => hpath (hlead.eq_of_length rfl).symm⟩
  · exact Or.inr (hall s)

namespace Environment

/-- Regular keys name a setting, or part from its path at the section or at the key. -/
theorem keys_cases {keys : List String} (h : Setting.Regular keys) (s : Setting) :
    keys = s.path ∨ (∃ k rest, keys = k :: rest ∧ k ≠ s.sectionName)
      ∨ ∃ k rest, keys = s.sectionName :: k :: rest ∧ k ≠ s.key := by
  rcases h.eq_or_apart s with hpath | ⟨htowards, hbeyond⟩
  · exact Or.inl hpath
  · cases keys with
    | nil => exact absurd List.nil_prefix htowards
    | cons k rest =>
      by_cases hsection : k = s.sectionName
      · subst hsection
        cases rest with
        | nil => exact absurd (List.prefix_append [s.sectionName] [s.key]) htowards
        | cons k rest =>
          refine Or.inr (Or.inr ⟨k, rest, rfl, ?_⟩)
          rintro rfl
          exact hbeyond (List.prefix_append s.path rest)
      · exact Or.inr (Or.inl ⟨k, rest, rfl, hsection⟩)

/-- The layer of one variable, seen from one setting: the section is not there, or it is a table of one
    key, which is that of the setting if the variable names it. -/
theorem findIn_nest {k : String} {rest : List String} (h : Setting.Regular (k :: rest))
    (origin : Origin) (value : ConfigValue) (s : Setting) :
    (Table.findIn s.sectionName [(k, nest origin value rest)] = none ∧ k :: rest ≠ s.path)
      ∨ ∃ key tree, Table.findIn s.sectionName [(k, nest origin value rest)]
          = some (.table origin [(key, tree)])
        ∧ (Table.findIn s.key [(key, tree)]).map (fun tree => tree.asValue.2)
          = if k :: rest = s.path then some value.outline else none := by
  rcases keys_cases h s with hpath | ⟨other, deeper, hkeys, hne⟩ | ⟨key, deeper, hkeys, hne⟩
  · obtain ⟨rfl, rfl⟩ := List.cons.inj hpath
    refine Or.inr ⟨s.key, .ofValue origin value, by simp [Table.findIn, nest], ?_⟩
    rw [Table.findIn, if_pos rfl, Option.map_some, ConfigTree.asValue_ofValue]
    exact (if_pos rfl).symm
  · obtain ⟨rfl, rfl⟩ := List.cons.inj hkeys
    refine Or.inl ⟨by rw [Table.findIn, if_neg hne, Table.findIn], fun hpath => ?_⟩
    exact hne (List.cons.inj hpath).1
  · obtain ⟨rfl, rfl⟩ := List.cons.inj hkeys
    refine Or.inr ⟨key, nest origin value deeper, by simp [Table.findIn, nest], ?_⟩
    rw [Table.findIn, if_neg hne, if_neg fun hpath => ?_]
    · rfl
    · exact hne (List.cons.inj (List.cons.inj hpath).2).1

/-- The layer of one variable. -/
theorem nest_eq {keys : List String} (h : Setting.Regular keys) (origin : Origin)
    (value : ConfigValue) :
    ∃ members, nest origin value keys = .table origin members ∧ ConfigTree.Keyed members
      ∧ ∀ s : Setting, s.find members = if keys = s.path then some value.outline else none := by
  cases keys with
  | nil =>
    rcases h.eq_or_apart default with hpath | hapart
    · cases hpath
    · exact absurd List.nil_prefix hapart.1
  | cons k rest =>
    have hcases := findIn_nest h origin value
    refine ⟨[(k, nest origin value rest)], rfl, ⟨List.nodup_singleton _, ?_, ?_⟩, ?_⟩
    · intro s tree htree
      rcases hcases s with ⟨hnone, -⟩ | ⟨key, inner, hsome, -⟩
      · rw [hnone] at htree
        cases htree
      · rw [hsome] at htree
        exact ⟨origin, [(key, inner)], (Option.some.inj htree).symm⟩
    · intro s
      rcases hcases s with ⟨hnone, -⟩ | ⟨key, inner, hsome, -⟩
      · rw [ConfigTree.sectionIn, hnone]
        exact List.nodup_nil
      · rw [ConfigTree.sectionIn, hsome]
        exact List.nodup_singleton _
    · intro s
      rw [Setting.find, ConfigTree.sectionIn]
      rcases hcases s with ⟨hnone, hne⟩ | ⟨key, inner, hsome, hfound⟩
      · rw [hnone, if_neg hne]
        rfl
      · rw [hsome]
        exact hfound

/-- The value that variables with known values have for a setting: that of the first variable naming
    it. -/
def valueOf (s : Setting) (entries : List (List String × ConfigValue)) : Option ConfigValue :=
  (entries.find? fun entry => entry.1 = s.path).map (·.2)

/-- No two variables name the same setting. -/
def NamedOnce {α : Type} (entries : List (List String × α)) : Prop :=
  entries.Pairwise fun a b => ∀ s : Setting, a.1 = s.path → b.1 ≠ s.path

/-- **The layer of all variables**, on top of what is there: every setting has the value of the one
    variable that names it, and settings without a variable keep theirs. -/
theorem foldl_overlay_nest (origin : Origin) {entries : List (List String × ConfigValue)}
    (hregular : ∀ entry ∈ entries, Setting.Regular entry.1) (honce : NamedOnce entries)
    {start : List (String × ConfigTree)} (hstart : ConfigTree.Keyed start) :
    ∃ members, (entries.map fun entry => nest origin entry.2 entry.1).foldl ConfigTree.overlay
        (.table origin start) = .table origin members
      ∧ ConfigTree.Keyed members
      ∧ ∀ s : Setting, s.find members
        = ((valueOf s entries).map ConfigValue.outline).or (s.find start) := by
  induction entries generalizing start with
  | nil => exact ⟨start, rfl, hstart, fun s => rfl⟩
  | cons entry rest ih =>
    obtain ⟨keys, value⟩ := entry
    obtain ⟨hfirst, hrest⟩ := List.pairwise_cons.1 honce
    obtain ⟨upper, hnest, hkeyed, hfind⟩ :=
      nest_eq (hregular _ List.mem_cons_self) origin value
    obtain ⟨members, hmembers, hresult, hvalues⟩ :=
      ih (fun other hother => hregular other (List.mem_cons_of_mem _ hother)) hrest
        (hstart.overlay hkeyed)
    refine ⟨members, ?_, hresult, fun s => ?_⟩
    · rw [List.map_cons, List.foldl_cons, hnest, ConfigTree.overlay]
      exact hmembers
    · rw [hvalues, ConfigTree.find_overlayMembers hstart.sections hkeyed, hfind, valueOf, valueOf]
      by_cases hpath : keys = s.path
      · -- no later variable names this setting, so its value stays on top
        have hnone : rest.find? (fun entry => entry.1 = s.path) = none :=
          List.find?_eq_none.2 fun other hother => by simpa using hfirst other hother s hpath
        rw [hnone, if_pos hpath, List.find?_cons_of_pos (by simpa using hpath)]
        rfl
      · rw [if_neg hpath, List.find?_cons_of_neg (by simpa using hpath), Option.none_or]

end Environment

end UnitBinding
