import UnitBinding.Proofs.Config.Sections
import UnitBinding.Toml.Parser

set_option autoImplicit false

/-! # Files with further keys

Two files may differ in keys that no setting has to do with. They agree on the settings and on what the
names of sections stand for (`Toml.AgreeOnSettings`), and so they do if such keys are added one after the
other (`Toml.agreeOnSettings_withKeys`). Files that agree make layers that look the same:
`ConfigTree.alike_ofFile`. -/

namespace UnitBinding

namespace Toml

/-! ## Files that agree -/

/-- A value without what is in it, if it is a table. -/
def Value.outline : Value → Value
  | .table _ => .table []
  | value => value

/-- The value of a file under the name of a section, if it is no table. Of a list the elements count,
    tables among them only as tables. -/
def Value.face? : Value → Option Value
  | .table _ => none
  | .arr elements => some (.arr (elements.map outline))
  | value => some value

/-- The value under the path of a setting. -/
def settingIn (s : Setting) (members : List (String × Value)) : Option Value :=
  match Table.findIn s.sectionName members with
  | some (.table inner) => Table.findIn s.key inner
  | _ => none

/-- Two files that differ in keys only that no setting has to do with: they have the same values under
    the paths of the settings, with all that is below, and the same under the names of sections, what
    is in tables apart. -/
structure AgreeOnSettings (members others : List (String × Value)) : Prop where
  sections : ∀ s : Setting, (Table.findIn s.sectionName members).bind Value.face?
    = (Table.findIn s.sectionName others).bind Value.face?
  settings : ∀ s : Setting, settingIn s members = settingIn s others

theorem AgreeOnSettings.refl (members : List (String × Value)) : AgreeOnSettings members members :=
  ⟨fun _ => rfl, fun _ => rfl⟩

theorem AgreeOnSettings.trans {members others more : List (String × Value)}
    (h : AgreeOnSettings members others) (hmore : AgreeOnSettings others more) :
    AgreeOnSettings members more :=
  ⟨fun s => (h.sections s).trans (hmore.sections s), fun s => (h.settings s).trans (hmore.settings s)⟩

/-! ## Further keys -/

/-- A file with a further key under a path. Tables on the way are made as needed; values on the way that
    are no tables, and a key that is there already, stand in its way. -/
def withKey (value : Value) : List String → List (String × Value) → Option (List (String × Value))
  | [], _ => none
  | [key], members =>
    if (Table.findIn key members).isSome then none else some (Table.setIn key value members)
  | key :: rest, members =>
    let inner := match Table.findIn key members with
      | none => withKey value rest []
      | some (.table inner) => withKey value rest inner
      | some _ => none
    inner.map fun inner => Table.setIn key (.table inner) members

/-- A file with further keys, one after the other. -/
def withKeys (added : List (List String × Value)) (members : List (String × Value)) :
    Option (List (String × Value)) :=
  added.foldlM (fun members entry => withKey entry.2 entry.1 members) members

theorem findIn_withKey_of_ne {value : Value} {key : String} {rest : List String}
    {members more : List (String × Value)} (h : withKey value (key :: rest) members = some more)
    {other : String} (hne : other ≠ key) : Table.findIn other more = Table.findIn other members := by
  cases rest with
  | nil =>
    rw [withKey] at h
    split at h
    · cases h
    · obtain rfl := Option.some.inj h
      exact Table.findIn_setIn_of_ne _ _ _ _ hne
  | cons k deeper =>
    obtain ⟨inner, -, rfl⟩ := Option.map_eq_some_iff.1 h
    exact Table.findIn_setIn_of_ne _ _ _ _ hne

/-- A key under a longer path lies in a table, whether that was there before or is made for it. -/
theorem findIn_withKey_self {value : Value} {key k : String} {deeper : List String}
    {members more : List (String × Value)}
    (h : withKey value (key :: k :: deeper) members = some more) :
    ∃ inner extended, (Table.findIn key members = some (.table inner)
        ∨ Table.findIn key members = none ∧ inner = [])
      ∧ Table.findIn key more = some (.table extended)
      ∧ withKey value (k :: deeper) inner = some extended := by
  obtain ⟨extended, hextended, rfl⟩ := Option.map_eq_some_iff.1 h
  split at hextended
  · rename_i hnone
    exact ⟨[], extended, Or.inr ⟨hnone, rfl⟩, Table.findIn_setIn_self _ _ _, hextended⟩
  · rename_i inner hinner
    exact ⟨inner, extended, Or.inl hinner, Table.findIn_setIn_self _ _ _, hextended⟩
  · cases hextended

/-- **A further key that no setting has to do with** leaves the settings and the sections alone. -/
theorem agreeOnSettings_withKey {value : Value} {path : List String}
    {members more : List (String × Value)} (hpath : ∀ s : Setting, s.Apart path)
    (h : withKey value path members = some more) : AgreeOnSettings members more := by
  suffices hboth : ∀ s : Setting,
      (Table.findIn s.sectionName members).bind Value.face?
          = (Table.findIn s.sectionName more).bind Value.face?
        ∧ settingIn s members = settingIn s more from
    ⟨fun s => (hboth s).1, fun s => (hboth s).2⟩
  intro s
  rcases Environment.keys_cases (Or.inr hpath) s with
    rfl | ⟨key, rest, rfl, hne⟩ | ⟨key, deeper, rfl, hne⟩
  · exact absurd (List.prefix_refl _) (hpath s).1
  · rw [settingIn, settingIn, findIn_withKey_of_ne h (Ne.symm hne)]
    exact ⟨rfl, rfl⟩
  · obtain ⟨inner, extended, hbefore, hafter, hinner⟩ := findIn_withKey_self h
    have hkey : Table.findIn s.key extended = Table.findIn s.key inner :=
      findIn_withKey_of_ne hinner (Ne.symm hne)
    rw [settingIn, settingIn, hafter]
    rcases hbefore with hbefore | ⟨hbefore, rfl⟩
    · rw [hbefore]
      exact ⟨rfl, hkey.symm⟩
    · rw [hbefore]
      exact ⟨rfl, hkey.symm⟩

theorem agreeOnSettings_withKeys {added : List (List String × Value)}
    (hadded : ∀ entry ∈ added, ∀ s : Setting, s.Apart entry.1) {members more : List (String × Value)}
    (h : withKeys added members = some more) : AgreeOnSettings members more := by
  induction added generalizing members with
  | nil =>
    obtain rfl := Option.some.inj h
    exact AgreeOnSettings.refl members
  | cons entry rest ih =>
    obtain ⟨next, hnext, hrest⟩ := Option.bind_eq_some_iff.1 h
    have hfirst := agreeOnSettings_withKey (hadded entry List.mem_cons_self) hnext
    exact hfirst.trans (ih (fun other hother => hadded other (List.mem_cons_of_mem _ hother)) hrest)

end Toml

/-! ## Layers of files that agree -/

theorem ConfigValue.outline_ofToml (value : Toml.Value) :
    (ofToml value.outline).outline = (ofToml value).outline := by
  cases value with
  | table members => simp [Toml.Value.outline, ofToml, ofTomlMembers, outline]
  | bool | int | float | str | moment | arr => rfl

theorem ConfigValue.map_outline_ofTomlElements (elements : List Toml.Value) :
    (ofTomlElements (elements.map Toml.Value.outline)).map outline
      = (ofTomlElements elements).map outline := by
  induction elements with
  | nil => rfl
  | cons value rest ih =>
    rw [List.map_cons, ofTomlElements, ofTomlElements, List.map_cons, List.map_cons, outline_ofToml,
      ih]

namespace Setting

/-- What is read of a section that is no table depends on its face in the file, and on the path. -/
theorem shape_ofFile (s : Setting) (path : String) (members : List (String × Toml.Value)) :
    (s.shape (ConfigTree.ofFile path members)).join
      = ((Table.findIn s.sectionName members).bind Toml.Value.face?).bind fun value =>
        (ConfigTree.ofValue (.file path) (.ofToml value)).single? := by
  rw [shape, ConfigTree.findIn_ofFile]
  cases Table.findIn s.sectionName members with
  | none => rfl
  | some value =>
    cases value with
    | table inner =>
      simp [Toml.Value.face?, ConfigValue.ofToml, ConfigTree.ofValue, ConfigTree.single?]
    | arr elements =>
      simp [Toml.Value.face?, ConfigValue.ofToml, ConfigTree.ofValue, ConfigTree.single?,
        ConfigValue.face, ConfigValue.map_outline_ofTomlElements]
    | bool | int | float | str | moment => rfl

/-- The value of a file under the path of a setting is what is seen of its layer. -/
theorem seen_ofFile (s : Setting) (path : String) (members : List (String × Toml.Value)) :
    s.seen (ConfigTree.ofFile path members)
      = (Toml.settingIn s members).map fun value =>
        (ConfigTree.ofValue (.file path) (.ofToml value)).asValue := by
  rw [seen, ConfigTree.sectionIn, ConfigTree.findIn_ofFile, Toml.settingIn]
  cases Table.findIn s.sectionName members with
  | none => rfl
  | some value =>
    cases value with
    | table inner =>
      simp only [Option.map_some, Option.getD_some, ConfigValue.ofToml, ConfigTree.ofValue,
        ConfigTree.members]
      rw [← ConfigTree.ofFile, ConfigTree.findIn_ofFile, Option.map_map]
      rfl
    | bool | int | float | str | moment | arr =>
      simp [ConfigValue.ofToml, ConfigTree.ofValue, ConfigTree.ofMembers, ConfigTree.members,
        Table.findIn]

end Setting

theorem ConfigTree.alike_ofFile {members others : List (String × Toml.Value)}
    (h : Toml.AgreeOnSettings members others) (path : String) :
    Alike (ofFile path members) (ofFile path others) where
  single s := by rw [s.shape_ofFile, s.shape_ofFile, h.sections]
  seen s := by rw [s.seen_ofFile, s.seen_ofFile, h.settings]

end UnitBinding
