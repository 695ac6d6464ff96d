import UnitBinding.Proofs.Config.Reading
import UnitBinding.Proofs.Config.Sections

set_option autoImplicit false

/-! # Variables that no setting has to do with

Every variable under the prefix makes a layer of its own, and they are laid over each other in their
order. A variable that no setting has to do with adds a layer from which nothing is read
(`extends_nest`), and laid in between the others it stays unseen: the layer of all variables has further
keys, and that is all (`nested_cases`). -/

namespace UnitBinding

open ConfigTree (DistinctKeys Extends)

/-! ## Distinct keys -/

/-- A table made from pairs has no key twice. -/
theorem Table.nodup_ofList {α : Type} (pairs : List (String × α)) :
    ((Table.ofList pairs).entries.map Prod.fst).Nodup := by
  suffices hfold : ∀ table : Table String α, (table.entries.map Prod.fst).Nodup →
      ((pairs.foldl (fun table pair => table.set pair.1 pair.2) table).entries.map Prod.fst).Nodup from
    hfold Table.empty List.nodup_nil
  induction pairs with
  | nil => exact fun _ h => h
  | cons pair rest ih => exact fun table h => ih _ (Table.nodup_setIn h)

theorem ConfigTree.keys_ofMembers (origin : Origin) (members : List (String × ConfigValue)) :
    (ofMembers origin members).map Prod.fst = members.map Prod.fst := by
  induction members with
  | nil => rw [ofMembers]; rfl
  | cons member rest ih =>
    obtain ⟨key, value⟩ := member
    rw [ofMembers, List.map_cons, List.map_cons, ih]

namespace Environment

/-- No word stands for a table. -/
theorem ofWord_ne_table (word : List Char) (members : List (String × ConfigValue)) :
    ofWord word ≠ .table members := by
  rw [ofWord]
  cases hfloat : if word.contains '.' then (Decimal.read? word).map ConfigValue.float else none with
  | some value =>
    split at hfloat
    · obtain ⟨x, -, rfl⟩ := Option.map_eq_some_iff.1 hfloat
      exact fun h => by cases h
    · cases hfloat
  | none =>
    cases unsigned? word with
    | some n => exact fun h => by cases h
    | none => cases negative? word <;> exact fun h => by cases h

/-- Tables come from braces only, and of several values for a key the last counts there. -/
theorem nodup_of_readValue {fuel : Nat} {cs rest : List Char} {members : List (String × ConfigValue)}
    (h : readValue fuel cs = .ok (.table members, rest)) : (members.map Prod.fst).Nodup := by
  cases fuel with
  | zero =>
    rw [readValue] at h
    cases h
  | succ fuel =>
    rw [readValue] at h
    split at h
    · cases h
    · cases h
    · rename_i inner _
      cases hpairs : readPairs fuel inner with
      | ok r =>
        rw [hpairs] at h
        obtain ⟨htable, -⟩ := Prod.mk.inj (Except.ok.inj h)
        obtain rfl := ConfigValue.table.inj htable
        exact Table.nodup_ofList r.1
      | error fault =>
        rw [hpairs] at h
        cases h
    · rename_i inner _
      cases helements : readElements fuel inner <;> rw [helements] at h <;> cases h
    · rename_i inner _
      cases hquoted : readQuoted inner <;> rw [hquoted] at h <;> cases h
    · split at h <;> cases h
    · obtain ⟨hword, -⟩ := Prod.mk.inj (Except.ok.inj h)
      exact absurd hword (ofWord_ne_table _ _)

/-- A variable whose value is a table has no key twice in it. -/
theorem nodup_of_readVariable {text : String} {members : List (String × ConfigValue)}
    (h : readVariable text = .ok (.table members)) : (members.map Prod.fst).Nodup := by
  unfold readVariable at h
  split at h
  · rename_i heq
    rw [Outcome.ok.inj h] at heq
    exact nodup_of_readValue heq
  · cases h
  · cases h

/-- There is always a first part. -/
theorem splitPoints_ne_nil (cs : List Char) : splitPoints cs ≠ [] := by
  cases cs with
  | nil => exact List.cons_ne_nil _ _
  | cons c rest =>
    rw [splitPoints]
    split
    · exact List.cons_ne_nil _ _
    · split <;> exact List.cons_ne_nil _ _

/-- A name spells at least one key. -/
theorem path?_ne_nil {namePrefix name : String} {keys : List String}
    (h : path? namePrefix name = some keys) : keys ≠ [] := by
  obtain ⟨rest, -, hkeys⟩ := Option.bind_eq_some_iff.1 h
  rw [keysOf?] at hkeys
  split at hkeys
  · cases hkeys
  · obtain rfl := Option.some.inj hkeys
    exact mt List.map_eq_nil_iff.1 (splitPoints_ne_nil _)

/-! ## The layer of one variable -/

/-- The layer of a variable has no key twice. -/
theorem distinctKeys_nest {origin : Origin} {value : ConfigValue} (key : String) (rest : List String)
    (hvalue : ∀ members, value = .table members → (members.map Prod.fst).Nodup) :
    DistinctKeys [(key, nest origin value rest)] where
  root := List.nodup_singleton _
  inner s := by
    rw [ConfigTree.sectionIn, Table.findIn]
    split
    · cases rest with
      | cons k deeper => exact List.nodup_singleton _
      | nil =>
        cases value with
        | table members =>
          rw [nest, ConfigTree.ofValue, Option.map_some, Option.getD_some, ConfigTree.members,
            ConfigTree.keys_ofMembers]
          exact hvalue members rfl
        | bool | signed | unsigned | float | str | list =>
          rw [nest, ConfigTree.ofValue]
          exact List.nodup_nil
    · exact List.nodup_nil

theorem distinctKeys_of_readVariable {text : String} {value : ConfigValue}
    (h : readVariable text = .ok value) (origin : Origin) (key : String) (rest : List String) :
    DistinctKeys [(key, nest origin value rest)] :=
  distinctKeys_nest key rest fun _ hmembers => nodup_of_readVariable (hmembers ▸ h)

/-- **A variable that no setting has to do with** makes a layer from which nothing is read. It is a
    table in the section that its first key names, if any. -/
theorem extends_nest {key : String} {rest : List String} (h : ∀ s : Setting, s.Apart (key :: rest))
    (origin : Origin) (value : ConfigValue) :
    Extends (fun s => key = s.sectionName) [] [(key, nest origin value rest)] := by
  have hcases := findIn_nest (Or.inr h) origin value
  have hpath : ∀ s : Setting, key :: rest ≠ s.path := fun s hpath =>
    (h s).1 (hpath ▸ List.prefix_refl _)
  constructor
  · intro s
    rw [Setting.seen, ConfigTree.sectionIn, Setting.seen, ConfigTree.sectionIn]
    rcases hcases s with ⟨hnone, -⟩ | ⟨k, tree, hsome, hfound⟩
    · rw [hnone]
      rfl
    · rw [if_neg (hpath s), Option.map_eq_none_iff] at hfound
      rw [hsome, Option.map_some, Option.getD_some, ConfigTree.members, hfound]
      rfl
  · intro s
    rw [Setting.shape, Setting.shape]
    rcases hcases s with ⟨hnone, -⟩ | ⟨k, tree, hsome, -⟩
    · exact Or.inl (by rw [hnone]; rfl)
    · refine Or.inr ⟨?_, by rw [hsome]; rfl⟩
      rw [Table.findIn] at hsome
      split at hsome
      · assumption
      · cases hsome

/-! ## The layers of all variables -/

/-- The layers of variables under a prefix, one by one. -/
def nested (namePrefix : String) (entries : List (String × String)) : Outcome (List ConfigTree) :=
  (entries.filterMap fun entry =>
    (path? namePrefix entry.1).map fun keys => (keys, entry.2)).mapM fun setting =>
      (readVariable setting.2).map fun value => nest (origin namePrefix) value setting.1

theorem layer_eq (env : Environment) (namePrefix : String) :
    env.layer namePrefix = (nested namePrefix env.entries).map fun trees =>
      trees.foldl ConfigTree.overlay (.empty (origin namePrefix)) := rfl

variable {namePrefix : String} {entries : List (String × String)} {entry : String × String}

/-- A variable that is not under the prefix makes no layer. -/
theorem nested_cons_of_none (h : path? namePrefix entry.1 = none) :
    nested namePrefix (entry :: entries) = nested namePrefix entries := by
  rw [nested, List.filterMap_cons_none (by rw [h]; rfl), nested]

theorem nested_cons_of_some {keys : List String} (h : path? namePrefix entry.1 = some keys) :
    nested namePrefix (entry :: entries) = (readVariable entry.2).bind fun value =>
      (nested namePrefix entries).map fun trees =>
        nest (origin namePrefix) value keys :: trees := by
  rw [nested, List.filterMap_cons_some (by rw [h]; rfl), List.mapM_cons]
  cases readVariable entry.2 <;> rfl

/-- Layers that leave a layer with further keys when they are laid on one. -/
def LaidAlike (o : Origin) (sections : Setting → Prop) (trees others : List ConfigTree) : Prop :=
  ∀ members besides, DistinctKeys members → DistinctKeys besides → Extends sections members besides →
    ∃ result extended, trees.foldl ConfigTree.overlay (.table o members) = .table o result
      ∧ others.foldl ConfigTree.overlay (.table o besides) = .table o extended
      ∧ DistinctKeys result ∧ DistinctKeys extended ∧ Extends sections result extended

namespace LaidAlike

variable {o : Origin} {sections : Setting → Prop} {trees others : List ConfigTree}

theorem nil : LaidAlike o sections [] [] := fun members besides hmembers hbesides h =>
  ⟨members, besides, rfl, rfl, hmembers, hbesides, h⟩

theorem cons (h : LaidAlike o sections trees others) {upper : List (String × ConfigTree)}
    (hupper : DistinctKeys upper) :
    LaidAlike o sections (.table o upper :: trees) (.table o upper :: others) := by
  intro members besides hmembers hbesides hextends
  rw [List.foldl_cons, List.foldl_cons, ConfigTree.overlay, ConfigTree.overlay]
  exact h _ _ (hmembers.overlay hupper) (hbesides.overlay hupper) (hextends.overlay hupper)

theorem cons_unseen (h : LaidAlike o sections trees others) {upper : List (String × ConfigTree)}
    (hupper : DistinctKeys upper) (hunseen : Extends sections [] upper) :
    LaidAlike o sections trees (.table o upper :: others) := by
  intro members besides hmembers hbesides hextends
  rw [List.foldl_cons, ConfigTree.overlay]
  exact h _ _ hmembers (hbesides.overlay hupper) (hextends.overlay_unseen hupper hunseen)

end LaidAlike

/-- **Variables in between the others.** Let no setting have to do with them, and let their values be
    readable. Then they leave a panic as it is, and they add further keys to the layers. -/
theorem nested_cases {sections : Setting → Prop} {added : List (String × String)}
    (hadded : ∀ entry ∈ added, ∀ keys, path? namePrefix entry.1 = some keys →
      (∀ s : Setting, s.Apart keys) ∧ (∃ value, readVariable entry.2 = .ok value)
        ∧ ∀ s : Setting, keys.head? = some s.sectionName → sections s)
    (entries : List (String × String)) :
    let others := entries.filter fun entry => entry ∉ added
    (∃ trees extended, nested namePrefix others = .ok trees
        ∧ nested namePrefix entries = .ok extended
        ∧ LaidAlike (origin namePrefix) sections trees extended)
      ∨ ∃ message, nested namePrefix others = .panic message
        ∧ nested namePrefix entries = .panic message := by
  induction entries with
  | nil => exact Or.inl ⟨[], [], rfl, rfl, LaidAlike.nil⟩
  | cons entry rest ih =>
    intro others
    have hdropped : entry ∈ added → others = rest.filter fun entry => entry ∉ added := fun hmem =>
      List.filter_cons_of_neg (by simpa using hmem)
    have hkept : entry ∉ added → others = entry :: rest.filter fun entry => entry ∉ added :=
      fun hmem => List.filter_cons_of_pos (by simpa using hmem)
    cases hpath : path? namePrefix entry.1 with
    | none =>
      rw [nested_cons_of_none hpath]
      by_cases hmem : entry ∈ added
      · rw [hdropped hmem]
        exact ih
      · rw [hkept hmem, nested_cons_of_none hpath]
        exact ih
    | some keys =>
      obtain ⟨key, deeper, rfl⟩ := List.exists_cons_of_ne_nil (path?_ne_nil hpath)
      by_cases hmem : entry ∈ added
      · obtain ⟨hapart, ⟨value, hvalue⟩, hsections⟩ := hadded entry hmem _ hpath
        have hdistinct := distinctKeys_of_readVariable hvalue (origin namePrefix) key deeper
        have hunseen := (extends_nest hapart (origin namePrefix) value).mono fun s hkey =>
          hsections s (congrArg some hkey)
        rw [hdropped hmem, nested_cons_of_some hpath, hvalue]
        rcases ih with ⟨trees, extended, htrees, hextended, hlaid⟩ | ⟨message, hothers, hall⟩
        · exact Or.inl ⟨trees, _, htrees, by rw [hextended]; rfl, hlaid.cons_unseen hdistinct hunseen⟩
        · exact Or.inr ⟨message, hothers, by rw [hall]; rfl⟩
      · rw [hkept hmem, nested_cons_of_some hpath, nested_cons_of_some hpath]
        rcases readVariable_cases entry.2 with ⟨value, hvalue⟩ | ⟨message, hpanic⟩
        · have hdistinct := distinctKeys_of_readVariable hvalue (origin namePrefix) key deeper
          rw [hvalue]
          rcases ih with ⟨trees, extended, htrees, hextended, hlaid⟩ | ⟨message, hothers, hall⟩
          · exact Or.inl ⟨_, _, by rw [htrees]; rfl, by rw [hextended]; rfl, hlaid.cons hdistinct⟩
          · exact Or.inr ⟨message, by rw [hothers]; rfl, by rw [hall]; rfl⟩
        · rw [hpanic]
          exact Or.inr ⟨message, rfl, rfl⟩

end Environment

end UnitBinding
