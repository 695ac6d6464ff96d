import UnitBinding.Proofs.Config.FurtherKeys
import UnitBinding.Proofs.Config.Loading
import UnitBinding.Proofs.Config.Printing
import UnitBinding.Proofs.Config.Variables

set_option autoImplicit false

/-! # What has no influence on a configuration

Keys that no setting has to do with may be added to the selected file and to the environment, and files
that are not selected may change: a load ends as before, in success and in failure
(`ConfigLoader.load_unrelated`). A file that gets further keys has to be readable with and without them,
for the words in which an unreadable file is refused may tell where it went wrong. Two things are asked
of added variables. Their texts have to be readable, since a text that is not ends every load in a panic.
And a section that the sources give as a single value, or as a list, is covered by a table as soon as a
variable adds a key to it, so none may be added to such a section (`ConfigLoader.load_covered`). -/

namespace UnitBinding

namespace ConfigLoader

variable {loader : ConfigLoader} {refusal : TomlRefusal} {disk more : Disk} {env : Environment}

/-! ## Selection -/

/-- A file is left as it is, or it can be read before and after, and what it says agrees on the
    settings. -/
def ContentsAgree (content other : RawText) : Prop :=
  other = content ∨ ∃ members others, readFile? content = some members
    ∧ readFile? other = some others ∧ Toml.AgreeOnSettings members others

/-- On two disks the same file is selected, with contents that agree, or none on either. -/
def FilesAgree (loader : ConfigLoader) (disk more : Disk) : Prop :=
  Option.Rel (fun file other => other.shown = file.shown ∧ ContentsAgree file.content other.content)
    (loader.selectedFile? disk) (loader.selectedFile? more)

theorem filesAgree_of_selectedFile?_eq (h : loader.selectedFile? more = loader.selectedFile? disk) :
    loader.FilesAgree disk more := by
  rw [FilesAgree, h]
  cases loader.selectedFile? disk with
  | none => exact Option.Rel.none
  | some file => exact Option.Rel.some ⟨rfl, Or.inl rfl⟩

/-- What stands under some names is selected as before when it is overwritten. -/
theorem selectedFile?_put {names : List RawText} {content : RawText}
    (h : disk.node? names = some (.file content)) (found : RawText) :
    loader.selectedFile? (disk.put names (.file found))
      = (loader.selectedFile? disk).map (·.overwritten names found) := by
  rw [selectedFile?, selectedFile?]
  cases loader.explicitPath with
  | some path =>
    dsimp only
    rw [Disk.holds_put h, Disk.find?_put h]
    split
    · rfl
    · rfl
  | none =>
    dsimp only
    rw [funext (Disk.holds_put h found), Option.map_bind]
    exact congrArg _ (funext fun path => Disk.fileFrom?_put h found disk.current path)

/-- A selected file stands on the disk. -/
theorem node?_of_selectedFile? {file : Disk.FoundFile} (h : loader.selectedFile? disk = some file) :
    disk.node? file.names = some (.file file.content) := by
  have hfrom : ∃ here path, disk.fileFrom? here path = some file := by
    rw [selectedFile?] at h
    split at h
    · split at h
      · obtain ⟨here, -, hfile⟩ := List.exists_of_findSome?_eq_some h
        exact ⟨here, _, hfile⟩
      · cases h
    · obtain ⟨path, -, hfile⟩ := Option.bind_eq_some_iff.1 h
      exact ⟨_, path, hfile⟩
  obtain ⟨here, path, hfile⟩ := hfrom
  exact (Disk.resolve_eq_file_iff.1 (Disk.fileFrom?_eq_some_iff.1 hfile).1).2

/-- **Overwriting the selected file** with what agrees with it leaves the files in agreement. -/
theorem filesAgree_put {file : Disk.FoundFile} {content : RawText}
    (hselected : loader.selectedFile? disk = some file) (hagree : ContentsAgree file.content content) :
    loader.FilesAgree disk (disk.put file.names (.file content)) := by
  rw [FilesAgree, selectedFile?_put (node?_of_selectedFile? hselected), hselected, Option.map_some,
    Disk.FoundFile.overwritten, if_pos rfl]
  exact Option.Rel.some ⟨rfl, hagree⟩

/-- The same file is selected if another one changes. -/
theorem selectedFile?_eq {names : List RawText} (h : Disk.OneFileChanged names disk more)
    (hunselected : ∀ file, loader.selectedFile? disk = some file → file.names ≠ names) :
    loader.selectedFile? more = loader.selectedFile? disk := by
  rw [selectedFile?] at hunselected
  rw [selectedFile?, selectedFile?]
  cases hexplicit : loader.explicitPath with
  | some path =>
    rw [hexplicit] at hunselected
    dsimp only at hunselected ⊢
    have hpath : ∀ content, disk.resolve path ≠ .ok (names, .file content) := by
      intro content hresolve
      rw [if_pos (Disk.holds_iff.2 ⟨_, hresolve⟩), Disk.find?_of_resolve hresolve] at hunselected
      exact hunselected _ rfl rfl
    rw [h.holds_eq hpath]
    split
    · rename_i hheld
      rw [if_pos hheld] at hunselected
      exact h.find?_eq hunselected
    · rfl
  | none =>
    rw [hexplicit] at hunselected
    dsimp only at hunselected ⊢
    rw [h.current]
    generalize configPlaces = places at hunselected ⊢
    -- up to the place that counts, no path leads to the changed file, or it would be selected
    induction places with
    | nil => rfl
    | cons path rest ih =>
      rw [List.find?_cons] at hunselected
      rw [List.find?_cons, List.find?_cons]
      have hpath : ∀ content, disk.resolve path ≠ .ok (names, .file content) := by
        intro content hresolve
        rw [Disk.holds_iff.2 ⟨_, hresolve⟩] at hunselected
        exact hunselected ⟨_, names, content⟩ (Disk.fileFrom?_eq_some_iff.2 ⟨hresolve, rfl⟩) rfl
      rw [h.holds_eq hpath]
      cases hheld : disk.holds path with
      | false =>
        rw [hheld] at hunselected
        exact ih hunselected
      | true =>
        rw [hheld] at hunselected
        exact h.fileFrom?_eq hunselected

theorem selectedMembers_alike (h : loader.FilesAgree disk more) :
    (∃ err, loader.selectedMembers refusal disk = .error err
        ∧ loader.selectedMembers refusal more = .error err)
      ∨ ∃ members others, loader.selectedMembers refusal disk = .ok members
        ∧ loader.selectedMembers refusal more = .ok others ∧ ConfigTree.Alike members others := by
  -- members that were read look like themselves
  have hsame : ∀ read : Except Error (List (String × ConfigTree)),
      (∃ err, read = .error err ∧ read = .error err)
        ∨ ∃ members others, read = .ok members ∧ read = .ok others
          ∧ ConfigTree.Alike members others := by
    intro read
    cases read with
    | error err => exact Or.inl ⟨err, rfl, rfl⟩
    | ok members => exact Or.inr ⟨members, members, rfl, rfl, fun _ => rfl, fun _ => rfl⟩
  rw [FilesAgree] at h
  rw [selectedMembers, selectedMembers]
  generalize loader.selectedFile? disk = file at h ⊢
  generalize loader.selectedFile? more = again at h ⊢
  cases h with
  | none => exact hsame _
  | @some file again hagree =>
    obtain ⟨shown, names, content⟩ := file
    obtain ⟨shown', others, content'⟩ := again
    obtain ⟨rfl, rfl | ⟨members, besides, hmembers, hbesides, hagree⟩⟩ := hagree
    · exact hsame _
    · dsimp only
      rw [fileMembers_of_readFile? hmembers, fileMembers_of_readFile? hbesides]
      exact Or.inr ⟨_, _, rfl, rfl, ConfigTree.alike_ofFile hagree _⟩

/-! ## Loading -/

/-- Where the sources together have a section, they have a table. -/
def HasOpenSection (loader : ConfigLoader) (refusal : TomlRefusal) (disk : Disk) (env : Environment)
    (s : Setting) : Prop :=
  ∀ members upper tree, loader.selectedMembers refusal disk = .ok members →
    env.layer loader.namePrefix = .ok upper →
    Table.findIn s.sectionName (layered members upper) = some tree →
      ∃ origin inner, tree = .table origin inner

theorem HasOpenSection.join_shape {s : Setting} (h : loader.HasOpenSection refusal disk env s)
    {members : List (String × ConfigTree)} {upper : ConfigTree}
    (hmembers : loader.selectedMembers refusal disk = .ok members)
    (hupper : env.layer loader.namePrefix = .ok upper) :
    (s.shape (layered members upper)).join = none := by
  rw [Setting.shape]
  cases hfound : Table.findIn s.sectionName (layered members upper) with
  | none => rfl
  | some tree =>
    obtain ⟨origin, inner, rfl⟩ := h members upper tree hmembers hupper hfound
    rfl

/-- If the sections of the file are tables, and every variable names one setting or has nothing to do
    with any, all sections are open. -/
theorem hasOpenSection_of_regular
    (hfile : ∀ content members, loader.selectedContent? disk = some content →
      readFile? content = some members → Toml.SectionsOpen members)
    (hregular : ∀ entry ∈ env.underPrefix loader.namePrefix, Setting.Regular entry.1)
    (honce : Environment.NamedOnce (env.underPrefix loader.namePrefix)) (s : Setting) :
    loader.HasOpenSection refusal disk env s := by
  intro members upper tree hmembers hupper htree
  rcases selectedMembers_cases refusal hfile with
    ⟨own, hown, hopen, -, -⟩ | ⟨⟨shown, complaint, hmalformed⟩, -⟩
  · obtain rfl := Except.ok.inj (hown.symm.trans hmembers)
    rcases Environment.layer_cases hregular honce with
      ⟨-, layer, hlayer, hkeyed, -⟩ | ⟨-, message, hpanic⟩
    · obtain rfl := Outcome.ok.inj (hlayer.symm.trans hupper)
      exact ConfigTree.sectionsOpen_overlayMembers hopen hkeyed s tree htree
    · rw [hpanic] at hupper
      cases hupper
  · rw [hmalformed] at hmembers
    cases hmembers

theorem extract_congr {members others : List (String × ConfigTree)}
    (h : ConfigTree.Alike members others) : extract members = extract others := by
  rw [extract, extract, AppConfig.ofTree_congr h]

/-- Files and layers that look the same are combined in the same way. -/
theorem combine_congr {upper other : ConfigTree}
    (h : (∃ err, loader.selectedMembers refusal disk = .error err
        ∧ loader.selectedMembers refusal more = .error err)
      ∨ ∃ members others, loader.selectedMembers refusal disk = .ok members
        ∧ loader.selectedMembers refusal more = .ok others
        ∧ ConfigTree.Alike (layered members upper) (layered others other)) :
    loader.combine refusal disk upper = loader.combine refusal more other := by
  rw [combine, combine]
  rcases h with ⟨err, hdisk, hmore⟩ | ⟨members, others, hdisk, hmore, halike⟩
  · rw [hdisk, hmore]
    rfl
  · rw [hdisk, hmore]
    show (extract _ >>= _) = (extract _ >>= _)
    rw [extract_congr halike]

/-- **Loading with further keys.** -/
theorem load_congr {larger : Environment} {added : List (String × String)}
    (hfiles : loader.FilesAgree disk more)
    (henv : larger.entries.filter (fun entry => entry ∉ added) = env.entries)
    (hadded : ∀ entry ∈ added, ∀ keys, Environment.path? loader.namePrefix entry.1 = some keys →
      (∀ s : Setting, s.Apart keys) ∧ (∃ value, Environment.readVariable entry.2 = .ok value)
        ∧ ∀ s : Setting, keys.head? = some s.sectionName → loader.HasOpenSection refusal disk env s) :
    loader.load refusal more larger = loader.load refusal disk env := by
  rw [load, load, Environment.layer_eq, Environment.layer_eq, ← henv]
  rcases Environment.nested_cases hadded larger.entries with
    ⟨trees, others, htrees, hothers, hlaid⟩ | ⟨message, hless, hmore⟩
  · obtain ⟨result, extended, hresult, hextended, hdistinct, hmore, hextends⟩ :=
      hlaid [] [] ConfigTree.distinctKeys_nil ConfigTree.distinctKeys_nil (ConfigTree.Extends.refl [])
    have hupper : env.layer loader.namePrefix
        = .ok (.table (Environment.origin loader.namePrefix) result) := by
      rw [Environment.layer_eq, ← henv, htrees]
      exact congrArg Outcome.ok hresult
    rw [htrees, hothers]
    show Outcome.ofExcept (loader.combine refusal more (others.foldl _ (.table _ [])))
      = Outcome.ofExcept (loader.combine refusal disk (trees.foldl _ (.table _ [])))
    rw [hresult, hextended]
    refine congrArg Outcome.ofExcept (combine_congr ?_).symm
    refine (selectedMembers_alike hfiles).imp_right ?_
    rintro ⟨members, besides, hmembers, hbesides, halike⟩
    exact ⟨members, besides, hmembers, hbesides, hextends.alike hdistinct hmore halike
      fun s hopen => hopen.join_shape hmembers hupper⟩
  · rw [hless, hmore]
    rfl

/-- **A file that is not selected** may change. -/
theorem load_of_oneFileChanged {names : List RawText} (h : Disk.OneFileChanged names disk more)
    (hunselected : ∀ file, loader.selectedFile? disk = some file → file.names ≠ names)
    (refusal : TomlRefusal) (env : Environment) :
    loader.load refusal more env = loader.load refusal disk env := by
  have hsame := filesAgree_of_selectedFile?_eq (selectedFile?_eq h hunselected)
  have hkept : env.entries.filter (fun entry => entry ∉ ([] : List (String × String)))
      = env.entries := by simp
  exact load_congr hsame hkept fun entry hentry => absurd hentry List.not_mem_nil

/-- **Keys without influence.** Whatever the files and the environment are, and whatever is said of
    unreadable files:

    * Let the same file be selected, or none. Let it be as it was, or differ in keys only that no setting
      has to do with. Let the environment get further variables that are not under the prefix, or that
      spell keys that no setting has to do with: they are no setting, no section, and nothing below a
      setting. Let the texts of those under the prefix be readable, and let the sections in which they
      lie be tables of the sources, or be absent from them. Then a load ends as before, with the same
      configuration or with the same error.
    * A file with any such keys added to it differs from what it was in such keys only, and if the
      selected file is overwritten with what differs so, the same file is selected.
    * A load ends as before if a file is overwritten or taken away that is not the selected one, and if
      a file is made that is not the selected one then. -/
theorem load_unrelated (loader : ConfigLoader) (refusal : TomlRefusal) (disk : Disk)
    (env : Environment) :
    (∀ (more : Disk) (larger : Environment) (added : List (String × String)),
      loader.FilesAgree disk more →
      larger.entries.filter (fun entry => entry ∉ added) = env.entries →
      (∀ entry ∈ added, ∀ keys, Environment.path? loader.namePrefix entry.1 = some keys →
        (∀ s : Setting, s.Apart keys)
          ∧ (∃ value, Environment.readVariable entry.2 = .ok value)
          ∧ ∀ s : Setting, keys.head? = some s.sectionName →
            loader.HasOpenSection refusal disk env s) →
      loader.load refusal more larger = loader.load refusal disk env)
      ∧ (∀ (added : List (List String × Toml.Value)) (members more : List (String × Toml.Value)),
        (∀ entry ∈ added, ∀ s : Setting, s.Apart entry.1) →
        Toml.withKeys added members = some more → Toml.AgreeOnSettings members more)
      ∧ (∀ file content, loader.selectedFile? disk = some file → ContentsAgree file.content content →
        loader.FilesAgree disk (disk.put file.names (.file content)))
      ∧ (∀ names content, disk.node? names = some (.file content) →
        (∀ file, loader.selectedFile? disk = some file → file.names ≠ names) →
        (∀ other, loader.load refusal (disk.put names (.file other)) env
            = loader.load refusal disk env)
          ∧ loader.load refusal (disk.erase names) env = loader.load refusal disk env)
      ∧ ∀ names content, disk.node? names = none →
        (∀ file, loader.selectedFile? (disk.put names (.file content)) = some file →
          file.names ≠ names) →
        loader.load refusal (disk.put names (.file content)) env
          = loader.load refusal disk env := by
  refine ⟨fun more larger added => load_congr,
    fun added members more hadded => Toml.agreeOnSettings_withKeys hadded,
    fun file content => filesAgree_put, fun names content hnode hunselected => ⟨fun other => ?_, ?_⟩,
    fun names content hnone hunselected => ?_⟩
  · exact load_of_oneFileChanged (Disk.oneFileChanged_put hnode other) hunselected refusal env
  · exact load_of_oneFileChanged (Disk.oneFileChanged_erase hnode) hunselected refusal env
  · -- the disk before the file was made is the changed one
    have hmade := Disk.oneFileChanged_of_made hnone content
    exact (load_of_oneFileChanged hmade hunselected refusal env).symm

/-- The names of the usual file in a scratch directory. -/
def scratchFile : List RawText := [.ofText "tmp", .ofText "scratch", .ofText "pubind.toml"]

/-- The names of the file that counts only without the usual one. -/
def innerFile : List RawText :=
  [.ofText "tmp", .ofText "scratch", .ofText "pubind", .ofText "pubind.toml"]

/-- A level. -/
def plainText : String := "[logging]\nlevel = \"warn\"\n"

/-- A file with a level, and another one that is not selected beside it. -/
def plainDisk : Disk :=
  ((Disk.scratch [("pubind.toml", plainText)]).put innerFile.dropLast .directory).put innerFile
    (.file (.ofText "level"))

/-- A note, and a further key in the section. -/
def notedText : String := "note = true\n[logging]\nextra = \"e\"\nlevel = \"warn\"\n"

/-- A variable for a setting. -/
def plainVariables : Environment := ⟨[("PUBIND__LOGGING__JSON_FORMAT", "true")]⟩

/-- Variables with one underscore too many, with a key that is no setting, and without the prefix. -/
def notedVariables : List (String × String) :=
  [("PUBIND__LOGGING___LEVEL", "off"), ("PUBIND__Logging__Levels", "off"), ("LOGGING__LEVEL", "off")]

/-- What is said of every file that cannot be read. -/
def noComment : TomlRefusal := fun _ => "not well formed"

theorem parse?_plainText :
    Toml.parse? plainText = some [("logging", .table [("level", .str "warn")])] := by
  have hlines : plainText.toList
      = [Line.header "logging", .setting "level" (.text "warn".toList)].flatMap Line.text := by
    decide +kernel
  exact (Toml.parse?_of_lines hlines (by decide) (by decide)).trans rfl

theorem parse?_notedText :
    Toml.parse? notedText
      = some [("note", .bool true),
        ("logging", .table [("extra", .str "e"), ("level", .str "warn")])] := by
  have hlines : notedText.toList
      = [Line.setting "note" (.flag true), .header "logging", .setting "extra" (.text "e".toList),
        .setting "level" (.text "warn".toList)].flatMap Line.text := by
    decide +kernel
  exact (Toml.parse?_of_lines hlines (by decide) (by decide)).trans rfl

theorem contentsAgree_notedText : ContentsAgree (.ofText plainText) (.ofText notedText) := by
  refine Or.inr ⟨_, _, (readFile?_ofText _).trans parse?_plainText,
    (readFile?_ofText _).trans parse?_notedText, fun s => ?_, fun s => ?_⟩
  · cases s <;> rfl
  · cases s <;> rfl

/-- The usual file counts. -/
theorem selectedFile?_plainDisk :
    ({} : ConfigLoader).selectedFile? plainDisk
      = some ⟨"pubind.toml", scratchFile, .ofText plainText⟩ := by
  decide +kernel

theorem hasOpenSection_plainDisk (s : Setting) :
    ({} : ConfigLoader).HasOpenSection noComment plainDisk plainVariables s := by
  have hnamed : plainVariables.underPrefix configPrefix = [(Setting.path .jsonFormat, "true")] := by
    decide
  refine hasOpenSection_of_regular (fun content members hcontent hparsed s value hvalue => ?_)
    (fun entry hentry => ?_) ?_ s
  · rw [← map_selectedFile?, selectedFile?_plainDisk] at hcontent
    obtain rfl := Option.some.inj hcontent
    obtain rfl := Option.some.inj
      (((readFile?_ofText _).trans parse?_plainText).symm.trans hparsed)
    cases s with
    | level | jsonFormat | fileOutput | maxFiles => exact ⟨_, (Option.some.inj hvalue).symm⟩
    | maxCapacity | timeToIdleSecs | installGlobal | includeLinked => cases hvalue
  · have hentry : entry ∈ plainVariables.underPrefix configPrefix := hentry
    rw [hnamed] at hentry
    rw [List.mem_singleton.1 hentry]
    exact Or.inl ⟨.jsonFormat, rfl⟩
  · show Environment.NamedOnce (plainVariables.underPrefix configPrefix)
    rw [hnamed]
    exact List.pairwise_singleton _ _

/-- The notes and the further variables change nothing, and neither does it if the file that is not
    selected is overwritten, taken away, or made again. -/
theorem load_unrelated_noted :
    ({} : ConfigLoader).load noComment (plainDisk.put scratchFile (.file (.ofText notedText)))
          ⟨notedVariables ++ plainVariables.entries⟩
        = ({} : ConfigLoader).load noComment plainDisk plainVariables
      ∧ ({} : ConfigLoader).load noComment (plainDisk.put innerFile (.file ⟨[0xff]⟩)) plainVariables
        = ({} : ConfigLoader).load noComment plainDisk plainVariables
      ∧ ({} : ConfigLoader).load noComment (plainDisk.erase innerFile) plainVariables
        = ({} : ConfigLoader).load noComment plainDisk plainVariables
      ∧ ({} : ConfigLoader).load noComment ((plainDisk.erase innerFile).put innerFile (.file ⟨[]⟩))
          plainVariables
        = ({} : ConfigLoader).load noComment (plainDisk.erase innerFile) plainVariables
      ∧ (({} : ConfigLoader).load noComment plainDisk plainVariables).value?
        = some { logging := { level := "warn", jsonFormat := true } } := by
  have hkeys : ∀ entry ∈ notedVariables, ∀ keys, Environment.path? configPrefix entry.1 = some keys →
      entry.2 = "off" ∧ (keys = ["logging", "_level"] ∨ keys = ["logging", "levels"]) := by
    decide
  have hadded : ∀ entry ∈ notedVariables, ∀ keys,
      Environment.path? configPrefix entry.1 = some keys →
        (∀ s : Setting, s.Apart keys) ∧ (∃ value, Environment.readVariable entry.2 = .ok value)
          ∧ ∀ s : Setting, keys.head? = some s.sectionName →
            ({} : ConfigLoader).HasOpenSection noComment plainDisk plainVariables s := by
    intro entry hentry keys hpath
    obtain ⟨htext, hkeys⟩ := hkeys entry hentry keys hpath
    refine ⟨fun s => ?_, htext ▸ ⟨_, rfl⟩, fun s _ => hasOpenSection_plainDisk s⟩
    rcases hkeys with rfl | rfl <;> cases s <;> exact ⟨by decide, by decide⟩
  obtain ⟨hload, -, hput, hunselected, -⟩ := load_unrelated {} noComment plainDisk plainVariables
  obtain ⟨-, -, -, -, hmade⟩ :=
    load_unrelated {} noComment (plainDisk.erase innerFile) plainVariables
  -- the usual file is selected on all of these disks, and it is not the inner one
  have hinner : ∀ {disk : Disk}, ({} : ConfigLoader).selectedFile? disk
        = some ⟨"pubind.toml", scratchFile, .ofText plainText⟩ →
      ∀ file, ({} : ConfigLoader).selectedFile? disk = some file → file.names ≠ innerFile := by
    intro disk husual file hfile
    obtain rfl := Option.some.inj (husual.symm.trans hfile)
    decide
  obtain ⟨hoverwritten, herased⟩ :=
    hunselected innerFile (.ofText "level") (by decide +kernel) (hinner selectedFile?_plainDisk)
  exact ⟨hload _ _ notedVariables (hput _ _ selectedFile?_plainDisk contentsAgree_notedText)
      (by decide) hadded,
    hoverwritten _, herased, hmade innerFile _ (by decide +kernel) (hinner (by decide +kernel)),
    by decide +kernel⟩

/-- A file whose section for logging is a text. -/
def textSection : Disk := Disk.scratch [("pubind.toml", "logging = \"x\"\n")]

/-- A variable for a key in the section that is no setting. -/
def extraKey : Environment := ⟨[("PUBIND__LOGGING__EXTRA", "1")]⟩

/-- **A single value for a section is covered** by a table when a variable adds a key to the section.
    The load fails without the variable, and with it the settings have their defaults. -/
theorem load_covered :
    ¬ ∀ (loader : ConfigLoader) (refusal : TomlRefusal) (disk : Disk) (env larger : Environment)
        (added : List (String × String)),
      larger.entries.filter (fun entry => entry ∉ added) = env.entries →
      (∀ entry ∈ added, ∀ keys, Environment.path? loader.namePrefix entry.1 = some keys →
        ∀ s : Setting, s.Apart keys) →
      (∀ entry ∈ added, ∀ keys, Environment.path? loader.namePrefix entry.1 = some keys →
        ∃ value, Environment.readVariable entry.2 = .ok value) →
      loader.load refusal disk larger = loader.load refusal disk env := by
  intro hunchanged
  have hkeys : ∀ entry ∈ extraKey.entries, ∀ keys,
      Environment.path? configPrefix entry.1 = some keys →
        entry.2 = "1" ∧ keys = ["logging", "extra"] := by
    decide
  have hsame := hunchanged {} noComment textSection Table.empty extraKey extraKey.entries (by decide)
    (fun entry hentry keys hpath s => by
      rw [(hkeys entry hentry keys hpath).2]
      cases s <;> exact ⟨by decide, by decide⟩)
    fun entry hentry keys hpath => by
      rw [(hkeys entry hentry keys hpath).1]
      exact ⟨_, rfl⟩
  have hwith : (({} : ConfigLoader).load noComment textSection extraKey).value?.any
      (fun config => config = {}) = true := by
    decide +kernel
  have hwithout : (({} : ConfigLoader).load noComment textSection Table.empty).value?.isNone
      = true := by
    decide +kernel
  rw [hsame, Option.isNone_iff_eq_none.1 hwithout] at hwith
  cases hwith

end ConfigLoader

end UnitBinding
