import UnitBinding.Proofs.Config.Layering

set_option autoImplicit false

/-! # What reading sees of the sources

A section may be absent, a table, or a single value (`Setting.shape`), and of a table reading sees the
settings and nothing else (`Setting.seen`). Two root tables that look the same in that way read the
same, in their faults as well: `AppConfig.ofTree_congr`. Laying one layer over another goes shape by
shape and setting by setting, whatever else the layers hold (`shape_overlayMembers`,
`seen_overlayMembers`). So keys that no setting has to do with stay unseen, wherever they are added: the
one thing that they can do is to make a table where a single value stood, or nothing (`Extends`). -/

namespace UnitBinding

/-! ## The view of a reader -/

/-- What is read of a section's single value: of a list the elements, and of an element that is a table
    only that it is one. -/
def ConfigValue.face : ConfigValue → ConfigValue
  | .list elements => .list (elements.map outline)
  | value => value

/-- What is read of a section that is no table, and where it is from. -/
def ConfigTree.single? : ConfigTree → Option (Origin × ConfigValue)
  | .leaf origin value => some (origin, value.face)
  | .table _ _ => none

namespace Setting

/-- What stands in the place of a setting's section: nothing, a table, or a single value. -/
def shape (s : Setting) (members : List (String × ConfigTree)) :
    Option (Option (Origin × ConfigValue)) :=
  (Table.findIn s.sectionName members).map ConfigTree.single?

/-- What is read as a setting, and where it is from. -/
def seen (s : Setting) (members : List (String × ConfigTree)) : Option (Origin × ConfigValue) :=
  (Table.findIn s.key (ConfigTree.sectionIn s.sectionName members)).map ConfigTree.asValue

end Setting

namespace ConfigValue

/-! No setting is a table, and the message about one does not tell one table from another. -/

theorem asText_outline (value : ConfigValue) : value.outline.asText = value.asText := by
  cases value <;> rfl

theorem asPath_outline (value : ConfigValue) : value.outline.asPath = value.asPath := by
  cases value <;> rfl

theorem asBool_outline (value : ConfigValue) : value.outline.asBool = value.asBool := by
  cases value <;> rfl

theorem asNatural_outline (name : String) (value : ConfigValue) :
    value.outline.asNatural name = value.asNatural name := by
  cases value <;> rfl

end ConfigValue

namespace ConfigTree

/-- Two root tables that look the same: the same single values for sections, and the same settings. -/
structure Alike (members others : List (String × ConfigTree)) : Prop where
  single : ∀ s : Setting, (s.shape members).join = (s.shape others).join
  seen : ∀ s : Setting, s.seen members = s.seen others

/-- Two sections of the same settings. -/
def SameSection (name : String) (members others : List (String × ConfigTree)) : Prop :=
  ∀ s : Setting, s.sectionName = name →
    (Table.findIn s.key members).map asValue = (Table.findIn s.key others).map asValue

/-! ## Reading what is seen -/

theorem setting_congr {α : Type} (sectionName key : String) (default : α)
    (decode : ConfigValue → Except ConfigProblem α) {members others : List (String × ConfigTree)}
    (h : (Table.findIn key members).map asValue = (Table.findIn key others).map asValue) :
    setting sectionName key default decode members
      = setting sectionName key default decode others := by
  have hseen : ∀ members, setting sectionName key default decode members
      = match (Table.findIn key members).map asValue with
        | none => .ok default
        | some found => readValue decode [sectionName, key] found.1 found.2 := by
    intro members
    rw [setting]
    cases Table.findIn key members <;> rfl
  rw [hseen, hseen, h]

/-- A table among the elements of a list is as good as another one if none can be read. -/
theorem settingAt_map_outline {α : Type} {decode : ConfigValue → Except ConfigProblem α}
    (h : ∀ value : ConfigValue, decode value.outline = decode value) (sectionName : String)
    (index : Nat) (default : α) (origin : Origin) (elements : List ConfigValue) :
    settingAt sectionName index default decode origin (elements.map ConfigValue.outline)
      = settingAt sectionName index default decode origin elements := by
  rw [settingAt, settingAt, List.getElem?_map]
  cases elements[index]? with
  | none => rfl
  | some value =>
    show readValue decode _ origin value.outline = readValue decode _ origin value
    unfold readValue
    rw [h]

/-- A section that is absent reads as an empty table, and of a table the settings count. -/
theorem sectionOr_congr {α : Type} (s : Setting) {standard : α} (decode : ConfigTree → Extracted α)
    (hempty : decode (.table default []) = .ok standard)
    (hdecode : ∀ {origin other : Origin} {inner others : List (String × ConfigTree)},
      SameSection s.sectionName inner others →
        decode (.table origin inner) = decode (.table other others))
    (hface : ∀ (origin : Origin) (value : ConfigValue),
      decode (.leaf origin value) = decode (.leaf origin value.face))
    {members others : List (String × ConfigTree)} (h : Alike members others) :
    sectionOr s.sectionName standard decode members
      = sectionOr s.sectionName standard decode others := by
  have hview : ∀ members, sectionOr s.sectionName standard decode members
      = match (s.shape members).join with
        | some found => decode (.leaf found.1 found.2)
        | none => decode (.table default (sectionIn s.sectionName members)) := by
    intro members
    rw [sectionOr, Setting.shape, sectionIn]
    cases Table.findIn s.sectionName members with
    | none => exact hempty.symm
    | some tree =>
      cases tree with
      | leaf origin value => exact hface origin value
      | table origin inner => exact hdecode fun _ _ => rfl
  rw [hview, hview, h.single]
  cases (s.shape others).join with
  | some found => rfl
  | none =>
    refine hdecode fun t ht => ?_
    rw [← ht]
    exact h.seen t

end ConfigTree

open ConfigTree (setting_congr settingAt_map_outline SameSection)
open ConfigValue (asText_outline asPath_outline asBool_outline asNatural_outline)

theorem LoggingConfig.ofTree_congr {origin other : Origin} {inner others : List (String × ConfigTree)}
    (h : SameSection "logging" inner others) :
    LoggingConfig.ofTree (.table origin inner) = LoggingConfig.ofTree (.table other others) := by
  have hfile := h .fileOutput rfl
  have hjson := h .jsonFormat rfl
  have hlevel := h .level rfl
  have hmax := h .maxFiles rfl
  simp only [Setting.key] at hfile hjson hlevel hmax
  rw [ofTree, ofTree, setting_congr _ _ _ _ hfile, setting_congr _ _ _ _ hjson,
    setting_congr _ _ _ _ hlevel, setting_congr _ _ _ _ hmax]

theorem LoggingConfig.ofTree_face (origin : Origin) (value : ConfigValue) :
    LoggingConfig.ofTree (.leaf origin value) = LoggingConfig.ofTree (.leaf origin value.face) := by
  cases value with
  | list elements =>
    rw [ConfigValue.face, ofTree, ofTree, settingAt_map_outline asText_outline,
      settingAt_map_outline asBool_outline, settingAt_map_outline asPath_outline,
      settingAt_map_outline (asNatural_outline _)]
  | bool | signed | unsigned | float | str | table => rfl

theorem AccessorCacheConfig.ofTree_congr {origin other : Origin}
    {inner others : List (String × ConfigTree)} (h : SameSection "accessor_cache" inner others) :
    AccessorCacheConfig.ofTree (.table origin inner)
      = AccessorCacheConfig.ofTree (.table other others) := by
  have hglobal := h .installGlobal rfl
  have hcapacity := h .maxCapacity rfl
  have hidle := h .timeToIdleSecs rfl
  simp only [Setting.key] at hglobal hcapacity hidle
  rw [ofTree, ofTree, setting_congr _ _ _ _ hglobal, setting_congr _ _ _ _ hcapacity,
    setting_congr _ _ _ _ hidle]

theorem AccessorCacheConfig.ofTree_face (origin : Origin) (value : ConfigValue) :
    AccessorCacheConfig.ofTree (.leaf origin value)
      = AccessorCacheConfig.ofTree (.leaf origin value.face) := by
  cases value with
  | list elements =>
    rw [ConfigValue.face, ofTree, ofTree, settingAt_map_outline (asNatural_outline _),
      settingAt_map_outline (asNatural_outline _), settingAt_map_outline asBool_outline]
  | bool | signed | unsigned | float | str | table => rfl

theorem DiscoveryConfig.ofTree_congr {origin other : Origin}
    {inner others : List (String × ConfigTree)} (h : SameSection "discovery" inner others) :
    DiscoveryConfig.ofTree (.table origin inner) = DiscoveryConfig.ofTree (.table other others) := by
  have hlinked := h .includeLinked rfl
  simp only [Setting.key] at hlinked
  rw [ofTree, ofTree, setting_congr _ _ _ _ hlinked]

theorem DiscoveryConfig.ofTree_face (origin : Origin) (value : ConfigValue) :
    DiscoveryConfig.ofTree (.leaf origin value) = DiscoveryConfig.ofTree (.leaf origin value.face) := by
  cases value with
  | list elements =>
    rw [ConfigValue.face, ofTree, ofTree, settingAt_map_outline asBool_outline]
  | bool | signed | unsigned | float | str | table => rfl

/-- **What looks the same reads the same**, in success and in failure. -/
theorem AppConfig.ofTree_congr {members others : List (String × ConfigTree)}
    (h : ConfigTree.Alike members others) : AppConfig.ofTree members = AppConfig.ofTree others := by
  have hcache : ConfigTree.sectionOr "accessor_cache" {} AccessorCacheConfig.ofTree members
      = ConfigTree.sectionOr "accessor_cache" {} AccessorCacheConfig.ofTree others :=
    ConfigTree.sectionOr_congr .maxCapacity AccessorCacheConfig.ofTree rfl
      AccessorCacheConfig.ofTree_congr AccessorCacheConfig.ofTree_face h
  have hdiscovery : ConfigTree.sectionOr "discovery" {} DiscoveryConfig.ofTree members
      = ConfigTree.sectionOr "discovery" {} DiscoveryConfig.ofTree others :=
    ConfigTree.sectionOr_congr .includeLinked DiscoveryConfig.ofTree rfl
      DiscoveryConfig.ofTree_congr DiscoveryConfig.ofTree_face h
  have hlogging : ConfigTree.sectionOr "logging" {} LoggingConfig.ofTree members
      = ConfigTree.sectionOr "logging" {} LoggingConfig.ofTree others :=
    ConfigTree.sectionOr_congr .level LoggingConfig.ofTree rfl LoggingConfig.ofTree_congr
      LoggingConfig.ofTree_face h
  rw [ofTree, ofTree, hcache, hdiscovery, hlogging]

namespace ConfigTree

/-! ## Layers over each other -/

/-- No key occurs twice, at the root and in the sections. -/
structure DistinctKeys (members : List (String × ConfigTree)) : Prop where
  root : (members.map Prod.fst).Nodup
  inner : ∀ s : Setting, ((sectionIn s.sectionName members).map Prod.fst).Nodup

theorem distinctKeys_nil : DistinctKeys [] := ⟨List.nodup_nil, fun _ => List.nodup_nil⟩

theorem shape_overlayMembers {upper : List (String × ConfigTree)}
    (hupper : (upper.map Prod.fst).Nodup) (below : List (String × ConfigTree)) (s : Setting) :
    s.shape (overlayMembers below upper) = (s.shape upper).or (s.shape below) := by
  rw [Setting.shape, Setting.shape, Setting.shape, findIn_overlayMembers hupper]
  cases Table.findIn s.sectionName upper with
  | none => rfl
  | some top =>
    cases top with
    | leaf origin value =>
      cases Table.findIn s.sectionName below <;> simp [onTop, overlay, single?]
    | table origin inner =>
      cases Table.findIn s.sectionName below with
      | none => rfl
      | some lower => cases lower <;> simp [onTop, overlay, single?]

/-- A single value covers the section below it; otherwise both are joined. -/
theorem sectionIn_overlay {upper : List (String × ConfigTree)} (hupper : DistinctKeys upper)
    (below : List (String × ConfigTree)) (s : Setting) :
    sectionIn s.sectionName (overlayMembers below upper)
      = if (s.shape upper).join.isSome then []
        else overlayMembers (sectionIn s.sectionName below) (sectionIn s.sectionName upper) := by
  have hinner := hupper.inner s
  rw [sectionIn, findIn_overlayMembers hupper.root, Setting.shape]
  rw [sectionIn] at hinner ⊢
  cases habove : Table.findIn s.sectionName upper with
  | none =>
    rw [sectionIn, habove]
    exact (overlayMembers.eq_1 _).symm
  | some top =>
    rw [habove] at hinner
    cases top with
    | leaf origin value =>
      cases Table.findIn s.sectionName below <;> simp [onTop, overlay, single?, members]
    | table origin inner =>
      rw [sectionIn, habove]
      cases Table.findIn s.sectionName below with
      | none => exact (overlayMembers_nil hinner).symm
      | some lower =>
        cases lower with
        | leaf other value =>
          -- the table takes the place of the single value
          simpa [onTop, overlay, single?, members] using (overlayMembers_nil hinner).symm
        | table other lower => simp [onTop, overlay, single?, members]

theorem seen_overlayMembers {upper : List (String × ConfigTree)} (hupper : DistinctKeys upper)
    (below : List (String × ConfigTree)) (s : Setting) :
    s.seen (overlayMembers below upper)
      = if (s.shape upper).join.isSome then none else (s.seen upper).or (s.seen below) := by
  rw [Setting.seen, sectionIn_overlay hupper]
  split
  · rfl
  · rw [findIn_overlayMembers (hupper.inner s), Setting.seen, Setting.seen]
    cases Table.findIn s.key (sectionIn s.sectionName upper) with
    | none => rfl
    | some tree => simp only [Option.map_some, Option.some_or, asValue_onTop]

theorem DistinctKeys.overlay {below upper : List (String × ConfigTree)} (hbelow : DistinctKeys below)
    (hupper : DistinctKeys upper) : DistinctKeys (overlayMembers below upper) where
  root := nodup_overlayMembers hbelow.root
  inner s := by
    rw [sectionIn_overlay hupper]
    split
    · exact List.nodup_nil
    · exact nodup_overlayMembers (hbelow.inner s)

/-! ## Layers with further keys -/

/-- A layer with further keys that nothing is read from. In some sections it may have a table where the
    other layer has a single value, or nothing. -/
structure Extends (sections : Setting → Prop) (members others : List (String × ConfigTree)) :
    Prop where
  seen : ∀ s : Setting, s.seen members = s.seen others
  shape : ∀ s : Setting, s.shape members = s.shape others
    ∨ sections s ∧ s.shape others = some none

variable {sections : Setting → Prop} {members others : List (String × ConfigTree)}

theorem Extends.refl (members : List (String × ConfigTree)) : Extends sections members members :=
  ⟨fun _ => rfl, fun _ => Or.inl rfl⟩

theorem Extends.mono (h : Extends sections members others) {wider : Setting → Prop}
    (hwider : ∀ s, sections s → wider s) : Extends wider members others where
  seen := h.seen
  shape s := (h.shape s).imp_right fun ⟨hsection, hshape⟩ => ⟨hwider s hsection, hshape⟩

/-- The same layer on top of both. -/
theorem Extends.overlay (h : Extends sections members others)
    {upper : List (String × ConfigTree)} (hupper : DistinctKeys upper) :
    Extends sections (overlayMembers members upper) (overlayMembers others upper) where
  seen s := by rw [seen_overlayMembers hupper, seen_overlayMembers hupper, h.seen]
  shape s := by
    rw [shape_overlayMembers hupper.root, shape_overlayMembers hupper.root]
    cases s.shape upper with
    | some top => exact Or.inl rfl
    | none => exact h.shape s

/-- A layer on top that holds nothing but further keys. -/
theorem Extends.overlay_unseen (h : Extends sections members others)
    {upper : List (String × ConfigTree)} (hupper : DistinctKeys upper)
    (hunseen : Extends sections [] upper) :
    Extends sections members (overlayMembers others upper) where
  seen s := by
    have hnone : s.seen upper = none := (hunseen.seen s).symm
    rw [seen_overlayMembers hupper, hnone, h.seen]
    rcases hunseen.shape s with hshape | ⟨-, hshape⟩
    · rw [← hshape]
      rfl
    · rw [hshape]
      rfl
  shape s := by
    rw [shape_overlayMembers hupper.root]
    rcases hunseen.shape s with hshape | ⟨hsection, hshape⟩
    · rw [← hshape]
      exact h.shape s
    · exact Or.inr ⟨hsection, by rw [hshape]; rfl⟩

/-- **Further keys on top do not count** if no section in which they lie is a single value otherwise. -/
theorem Extends.alike (h : Extends sections members others) (hmembers : DistinctKeys members)
    (hothers : DistinctKeys others) {below besides : List (String × ConfigTree)}
    (hbelow : Alike below besides)
    (hopen : ∀ s, sections s → (s.shape (overlayMembers below members)).join = none) :
    Alike (overlayMembers below members) (overlayMembers besides others) := by
  have hview : ∀ s : Setting, (s.shape members).join = (s.shape others).join
      ∧ (s.shape (overlayMembers below members)).join
        = (s.shape (overlayMembers besides others)).join := by
    intro s
    have hsingle := hbelow.single s
    have hopen := hopen s
    rw [shape_overlayMembers hmembers.root] at hopen ⊢
    rw [shape_overlayMembers hothers.root]
    rcases h.shape s with hshape | ⟨hsection, hshape⟩
    · rw [← hshape]
      refine ⟨rfl, ?_⟩
      cases s.shape members with
      | none => exact hsingle
      | some top => rfl
    · have hnone := hopen hsection
      rw [hnone, hshape]
      refine ⟨?_, rfl⟩
      cases hmine : s.shape members with
      | none => rfl
      | some top =>
        rw [hmine] at hnone
        exact hnone
  refine ⟨fun s => (hview s).2, fun s => ?_⟩
  rw [seen_overlayMembers hmembers, seen_overlayMembers hothers, (hview s).1, h.seen, hbelow.seen]

end ConfigTree

end UnitBinding
