import UnitBinding.Config.Loader
import UnitBinding.Proofs.Config.Layering
import UnitBinding.Proofs.Config.Naming
import UnitBinding.Proofs.Config.Reading
import UnitBinding.Proofs.Storage.Finding

set_option autoImplicit false

/-! # Loading a configuration

A loaded configuration takes each setting from the variable that names it, or else from the one file
that was selected, or else from the defaults (`ConfigLoader.chosen?`). `ConfigLoader.load_settings`
says so of every mixture of sources, and says how a load ends otherwise: in an error of the
configuration, or in a panic, if the text of a variable under the prefix cannot be read without cutting
a wide character. The latter befalls variables that have nothing to do with any setting as well. -/

namespace UnitBinding

/-! ## Variables -/

namespace Environment

/-- The value that a variable has for a setting, if one names it. -/
def valueFor? (env : Environment) (namePrefix : String) (s : Setting) : Option ConfigValue :=
  ((env.underPrefix namePrefix).find? fun entry => entry.1 = s.path).bind
    fun entry => (readVariable entry.2).value?

/-- The value of a text that can be read. -/
def valueOfText (text : String) : ConfigValue := (readVariable text).value?.getD default

theorem value?_of_readable {text : String} (h : ∃ value, readVariable text = .ok value) :
    (readVariable text).value? = some (valueOfText text) := by
  obtain ⟨value, hvalue⟩ := h
  rw [valueOfText, hvalue]
  rfl

/-- All variables are read, or one of them panics. -/
theorem mapM_readVariable (origin : Origin) (entries : List (List String × String)) :
    let nested := entries.mapM fun entry =>
      (readVariable entry.2).map fun value => nest origin value entry.1
    ((∀ entry ∈ entries, ∃ value, readVariable entry.2 = .ok value)
        ∧ nested = .ok (entries.map fun entry => nest origin (valueOfText entry.2) entry.1))
      ∨ (∃ entry ∈ entries, ∃ message, readVariable entry.2 = .panic message)
        ∧ ∃ message, nested = .panic message := by
  induction entries with
  | nil => exact Or.inl ⟨fun _ hentry => absurd hentry List.not_mem_nil, rfl⟩
  | cons entry rest ih =>
    intro nested
    have hnested : nested = ((readVariable entry.2).map fun value =>
        nest origin value entry.1) >>= fun tree => _ >>= fun trees => pure (tree :: trees) :=
      List.mapM_cons
    rcases readVariable_cases entry.2 with ⟨value, hvalue⟩ | ⟨message, hpanic⟩
    · have hfirst : valueOfText entry.2 = value := by
        rw [valueOfText, hvalue]
        rfl
      rw [hvalue] at hnested
      rcases ih with ⟨hall, hrest⟩ | ⟨⟨other, hother, hpanic⟩, message, hrest⟩
      · refine Or.inl ⟨?_, ?_⟩
        · intro other hother
          rcases List.mem_cons.1 hother with rfl | hother
          · exact ⟨value, hvalue⟩
          · exact hall other hother
        · rw [hnested, hrest, List.map_cons, hfirst]
          rfl
      · refine Or.inr ⟨⟨other, List.mem_cons_of_mem _ hother, hpanic⟩, message, ?_⟩
        rw [hnested, hrest]
        rfl
    · refine Or.inr ⟨⟨entry, List.mem_cons_self, message, hpanic⟩, message, ?_⟩
      rw [hnested, hpanic]
      rfl

/-- The values of variables, one for each setting that one of them names. -/
theorem valueOf_map_valueOfText {env : Environment} {namePrefix : String}
    (h : ∀ entry ∈ env.underPrefix namePrefix, ∃ value, readVariable entry.2 = .ok value)
    (s : Setting) :
    valueOf s ((env.underPrefix namePrefix).map fun entry => (entry.1, valueOfText entry.2))
      = env.valueFor? namePrefix s := by
  have hsame : (fun entry : List String × ConfigValue => decide (entry.1 = s.path))
      ∘ (fun entry : List String × String => (entry.1, valueOfText entry.2))
      = fun entry => decide (entry.1 = s.path) := rfl
  rw [valueOf, valueFor?, List.find?_map, hsame]
  cases hfound : (env.underPrefix namePrefix).find? fun entry => entry.1 = s.path with
  | none => rfl
  | some entry =>
    rw [Option.bind_some, value?_of_readable (h entry (List.mem_of_find?_eq_some hfound))]
    rfl

/-- **The layer of the environment.** If every variable can be read, it has the variables' values for
    the settings that they name; otherwise there is a panic. -/
theorem layer_cases {env : Environment} {namePrefix : String}
    (hregular : ∀ entry ∈ env.underPrefix namePrefix, Setting.Regular entry.1)
    (honce : NamedOnce (env.underPrefix namePrefix)) :
    ((∀ entry ∈ env.underPrefix namePrefix, ∃ value, readVariable entry.2 = .ok value)
        ∧ ∃ members, env.layer namePrefix = .ok (.table (origin namePrefix) members)
          ∧ ConfigTree.Keyed members
          ∧ ∀ s : Setting, s.find members
            = (env.valueFor? namePrefix s).map ConfigValue.outline)
      ∨ (∃ entry ∈ env.underPrefix namePrefix, ∃ message, readVariable entry.2 = .panic message)
        ∧ ∃ message, env.layer namePrefix = .panic message := by
  rcases mapM_readVariable (origin namePrefix) (env.underPrefix namePrefix) with
    ⟨hall, hnested⟩ | ⟨hpanic, message, hnested⟩
  · -- the values are under the keys of the texts, so they name settings in the same way
    have hkeys : NamedOnce
        ((env.underPrefix namePrefix).map fun entry => (entry.1, valueOfText entry.2)) :=
      List.pairwise_map.2 honce
    have hnames : ∀ entry ∈ (env.underPrefix namePrefix).map fun entry =>
        (entry.1, valueOfText entry.2), Setting.Regular entry.1 := by
      intro entry hentry
      obtain ⟨own, hown, rfl⟩ := List.mem_map.1 hentry
      exact hregular own hown
    obtain ⟨members, hmembers, hkeyed, hvalues⟩ :=
      foldl_overlay_nest (origin namePrefix) hnames hkeys ConfigTree.keyed_nil
    refine Or.inl ⟨hall, members, ?_, hkeyed, fun s => ?_⟩
    · rw [layer, hnested]
      rw [List.map_map] at hmembers
      exact congrArg Outcome.ok hmembers
    · rw [hvalues, valueOf_map_valueOfText hall]
      exact Option.or_none
  · refine Or.inr ⟨hpanic, message, ?_⟩
    rw [layer, hnested]
    rfl

end Environment

/-! ## The file and the layers above it -/

/-- Whether an error puts the configuration at fault. -/
def Error.IsConfiguration (err : Error) : Prop :=
  ∃ message cause, err = .configuration message cause

namespace ConfigLoader

/-- What a file says, if it is a text and well formed. -/
def readFile? (content : RawText) : Option (List (String × Toml.Value)) :=
  content.text?.bind Toml.parse?

theorem readFile?_ofText (text : String) : readFile? (.ofText text) = Toml.parse? text := by
  rw [readFile?, RawText.text?_ofText, Option.bind_some]

/-- The content of the file under a path in the current directory. -/
def contentAt? (disk : Disk) (path : RawText) : Option RawText :=
  match disk.resolve path with
  | .ok (_, .file content) => some content
  | _ => none

/-- The content of the selected file. An explicit path selects what is found under it, if anything is
    there; without one, the first of the two usual places counts where something is. -/
def selectedContent? (loader : ConfigLoader) (disk : Disk) : Option RawText :=
  match loader.explicitPath with
  | some path => if disk.holds path then (disk.find? path).map (·.content) else none
  | none =>
    if disk.holds (.ofText "pubind.toml") then contentAt? disk (.ofText "pubind.toml")
    else contentAt? disk (.ofText "pubind/pubind.toml")

/-- The value that the selected file has for a setting. -/
def fileValue? (loader : ConfigLoader) (disk : Disk) (s : Setting) : Option ConfigValue :=
  ((loader.selectedContent? disk).bind readFile?).bind s.inFile

/-- The value that a setting is given: by a variable, or else by the file. -/
def chosen? (loader : ConfigLoader) (disk : Disk) (env : Environment) (s : Setting) :
    Option ConfigValue :=
  (env.valueFor? loader.namePrefix s).or (loader.fileValue? disk s)

/-- An explicit path that leads to a file selects that file. -/
theorem selectedContent?_of_resolve {loader : ConfigLoader} {disk : Disk} {path content : RawText}
    {names : List RawText} (hexplicit : loader.explicitPath = some path)
    (hresolve : disk.resolve path = .ok (names, .file content)) :
    loader.selectedContent? disk = some content := by
  rw [selectedContent?, hexplicit]
  dsimp only
  rw [if_pos (Disk.holds_iff.2 ⟨_, hresolve⟩), Disk.find?_of_resolve hresolve, Option.map_some]

theorem map_fileFrom?_current (disk : Disk) (path : RawText) :
    (disk.fileFrom? disk.current path).map (·.content) = contentAt? disk path := by
  rw [Disk.fileFrom?, contentAt?]
  cases disk.resolve path with
  | error fault => rfl
  | ok found =>
    obtain ⟨names, content | _⟩ := found
    · rfl
    · rfl

theorem contentAt?_of_not_holds {disk : Disk} {path : RawText} (h : disk.holds path = false) :
    contentAt? disk path = none := by
  rw [contentAt?]
  split
  · rename_i names content hresolve
    rw [Disk.holds_iff.2 ⟨_, hresolve⟩] at h
    cases h
  · rfl

theorem map_selectedFile? (loader : ConfigLoader) (disk : Disk) :
    (loader.selectedFile? disk).map (·.content) = loader.selectedContent? disk := by
  rw [selectedFile?, selectedContent?]
  cases loader.explicitPath with
  | some path =>
    dsimp only
    split
    · rfl
    · rfl
  | none =>
    have hplaces : configPlaces = [.ofText "pubind.toml", .ofText "pubind/pubind.toml"] := by decide
    dsimp only
    rw [hplaces, List.find?_cons, List.find?_cons, List.find?_nil]
    cases hfirst : disk.holds (.ofText "pubind.toml") with
    | true => exact map_fileFrom?_current disk _
    | false =>
      cases hsecond : disk.holds (.ofText "pubind/pubind.toml") with
      | true => exact map_fileFrom?_current disk _
      | false => exact (contentAt?_of_not_holds hsecond).symm

variable {loader : ConfigLoader} {refusal : TomlRefusal} {disk : Disk}

theorem fileMembers_of_readFile? {content : RawText} {members : List (String × Toml.Value)}
    (h : readFile? content = some members) (shown : String) :
    fileMembers refusal shown content = .ok (ConfigTree.ofFile shown members) := by
  obtain ⟨text, htext, hparse⟩ := Option.bind_eq_some_iff.1 h
  rw [fileMembers, htext]
  dsimp only
  rw [hparse]
  rfl

/-- A file that says nothing is a fault, whatever is said of it. -/
theorem fileMembers_of_readFile?_eq_none (refusal : TomlRefusal) {content : RawText}
    (h : readFile? content = none) (shown : String) :
    ∃ complaint, fileMembers refusal shown content = .error (malformedFile shown complaint) := by
  rw [fileMembers]
  cases htext : content.text? with
  | none => exact ⟨noText, rfl⟩
  | some text =>
    have hparse : Toml.parse? text = none := by rwa [readFile?, htext] at h
    dsimp only
    rw [hparse]
    exact ⟨refusal text, rfl⟩

/-- The selected file as a layer, if it is well formed. -/
theorem selectedMembers_cases (refusal : TomlRefusal)
    (hfile : ∀ content members, loader.selectedContent? disk = some content →
      readFile? content = some members → Toml.SectionsOpen members) :
    (∃ members, loader.selectedMembers refusal disk = .ok members ∧ ConfigTree.SectionsOpen members
        ∧ (∀ s : Setting, s.find members = (loader.fileValue? disk s).map ConfigValue.outline)
        ∧ ∀ content, loader.selectedContent? disk = some content →
          ∃ parsed, readFile? content = some parsed)
      ∨ (∃ shown complaint,
          loader.selectedMembers refusal disk = .error (malformedFile shown complaint))
        ∧ ∃ content, loader.selectedContent? disk = some content ∧ readFile? content = none := by
  have hcontent := loader.map_selectedFile? disk
  cases hselected : loader.selectedFile? disk with
  | none =>
    rw [hselected] at hcontent
    refine Or.inl ⟨[], by rw [selectedMembers, hselected], ConfigTree.keyed_nil.sections,
      fun s => ?_, fun content h => ?_⟩
    · rw [fileValue?, ← hcontent]
      rfl
    · rw [← hcontent] at h
      cases h
  | some file =>
    obtain ⟨shown, names, content⟩ := file
    rw [hselected] at hcontent
    have hmembers : loader.selectedMembers refusal disk = fileMembers refusal shown content := by
      rw [selectedMembers, hselected]
    cases hparsed : readFile? content with
    | none =>
      obtain ⟨complaint, hmalformed⟩ := fileMembers_of_readFile?_eq_none refusal hparsed shown
      exact Or.inr ⟨⟨shown, complaint, hmembers.trans hmalformed⟩, content, hcontent.symm, hparsed⟩
    | some members =>
      have hopen := hfile content members hcontent.symm hparsed
      refine Or.inl ⟨ConfigTree.ofFile shown members, ?_, ConfigTree.sectionsOpen_ofFile hopen shown,
        fun s => ?_, fun other h => ?_⟩
      · rw [hmembers, fileMembers_of_readFile? hparsed]
      · rw [Setting.find_ofFile hopen, fileValue?, ← hcontent, Option.map_some, Option.bind_some,
          hparsed]
        rfl
      · rw [← hcontent] at h
        obtain rfl := Option.some.inj h
        exact ⟨members, hparsed⟩

theorem extract_eq_ok_iff {members : List (String × ConfigTree)} {config : AppConfig} :
    extract members = .ok config ↔ AppConfig.ofTree members = .ok config := by
  rw [extract]
  cases AppConfig.ofTree members with
  | ok value => simp [withContext]
  | error fault => simp [withContext]

/-- Layers are combined exactly if the file is well formed, every setting can be read, and the result
    is accepted. -/
theorem combine_eq_ok_iff
    (hfile : ∀ content members, loader.selectedContent? disk = some content →
      readFile? content = some members → Toml.SectionsOpen members)
    {origin : Origin} {upper : List (String × ConfigTree)} (hupper : ConfigTree.Keyed upper)
    {value? : Setting → Option ConfigValue}
    (hvalues : ∀ s : Setting, s.find upper = (value? s).map ConfigValue.outline)
    (config : AppConfig) :
    loader.combine refusal disk (.table origin upper) = .ok config
      ↔ (∀ content, loader.selectedContent? disk = some content →
          ∃ parsed, readFile? content = some parsed)
        ∧ (∀ s : Setting, s.convert ((value? s).or (loader.fileValue? disk s))
          = .ok (Setting.of config s))
        ∧ config.validate = .ok () := by
  rcases selectedMembers_cases refusal hfile with
    ⟨members, hmembers, hopen, hfound, hparsed⟩
      | ⟨⟨shown, complaint, hmalformed⟩, content, hcontent, hnone⟩
  · have hread : extract (layered members (.table origin upper)) = .ok config
        ↔ ∀ s : Setting, s.convert ((value? s).or (loader.fileValue? disk s))
          = .ok (Setting.of config s) := by
      -- reading goes setting by setting, and so does laying the environment over the file
      rw [extract_eq_ok_iff, layered,
        AppConfig.ofTree_eq_ok_iff (ConfigTree.sectionsOpen_overlayMembers hopen hupper)]
      refine forall_congr' fun s => ?_
      rw [ConfigTree.find_overlayMembers hopen hupper, hvalues, hfound, ← Option.map_or,
        Setting.convert_outline]
    rw [← hread, combine, hmembers]
    show (extract (layered members (.table origin upper)) >>= fun read =>
      read.validate >>= fun _ => pure read) = .ok config ↔ _
    constructor
    · intro h
      obtain ⟨read, hextract, h⟩ := bind_eq_ok_iff.1 h
      obtain ⟨checked, hvalid, h⟩ := bind_eq_ok_iff.1 h
      obtain rfl := Except.ok.inj h
      exact ⟨hparsed, hextract, hvalid⟩
    · rintro ⟨-, hextract, hvalid⟩
      exact bind_eq_ok_iff.2 ⟨config, hextract, bind_eq_ok_iff.2 ⟨(), hvalid, rfl⟩⟩
  · rw [combine, hmalformed]
    refine iff_of_false (fun h => ?_) fun h => ?_
    · cases h
    · obtain ⟨parsed, hparsed⟩ := h.1 content hcontent
      rw [hnone] at hparsed
      cases hparsed

theorem isConfiguration_of_selectedMembers {err : Error}
    (h : loader.selectedMembers refusal disk = .error err) : err.IsConfiguration := by
  rw [selectedMembers] at h
  split at h
  · cases h
  · rename_i file _
    cases hread : readFile? file.content with
    | none =>
      obtain ⟨complaint, hmalformed⟩ :=
        fileMembers_of_readFile?_eq_none refusal hread file.shown
      obtain rfl := Except.error.inj (hmalformed.symm.trans h)
      exact ⟨_, _, rfl⟩
    | some members =>
      rw [fileMembers_of_readFile? hread] at h
      cases h

theorem isConfiguration_of_extract {members : List (String × ConfigTree)} {err : Error}
    (h : extract members = .error err) : err.IsConfiguration := by
  rw [extract] at h
  cases hread : AppConfig.ofTree members with
  | ok value =>
    rw [hread] at h
    cases h
  | error fault =>
    rw [hread] at h
    obtain rfl := Except.error.inj h
    exact ⟨_, _, rfl⟩

theorem isConfiguration_of_validate {config : AppConfig} {err : Error}
    (h : config.validate = .error err) : err.IsConfiguration := by
  rw [AppConfig.validate] at h
  split at h
  · rename_i heq
    rw [LogLevel.parse] at heq
    split at heq
    · cases heq
    · obtain rfl := Except.error.inj heq
      obtain rfl := Except.error.inj h
      exact ⟨_, _, rfl⟩
  · split at h
    · obtain rfl := Except.error.inj h
      exact ⟨_, _, rfl⟩
    · split at h
      · obtain rfl := Except.error.inj h
        exact ⟨_, _, rfl⟩
      · cases h

/-- Whatever fails, the configuration is at fault. -/
theorem isConfiguration_of_combine {upper : ConfigTree} {err : Error}
    (h : loader.combine refusal disk upper = .error err) : err.IsConfiguration := by
  rcases error_of_bind_eq_error h with hmembers | ⟨members, -, h⟩
  · exact isConfiguration_of_selectedMembers hmembers
  · rcases error_of_bind_eq_error h with hextract | ⟨config, -, h⟩
    · exact isConfiguration_of_extract hextract
    · rcases error_of_bind_eq_error h with hvalidate | ⟨checked, -, h⟩
      · exact isConfiguration_of_validate hvalidate
      · cases h

/-! ## Loading -/

/-- A load combines the layers if every variable can be read, and panics otherwise. -/
theorem load_cases (refusal : TomlRefusal) (disk : Disk) {env : Environment}
    (hregular : ∀ entry ∈ env.underPrefix loader.namePrefix, Setting.Regular entry.1)
    (honce : Environment.NamedOnce (env.underPrefix loader.namePrefix)) :
    ((∀ entry ∈ env.underPrefix loader.namePrefix,
          ∃ value, Environment.readVariable entry.2 = .ok value)
        ∧ ∃ origin members, loader.load refusal disk env
            = Outcome.ofExcept (loader.combine refusal disk (.table origin members))
          ∧ ConfigTree.Keyed members
          ∧ ∀ s : Setting, s.find members
            = (env.valueFor? loader.namePrefix s).map ConfigValue.outline)
      ∨ (∃ entry ∈ env.underPrefix loader.namePrefix,
          ∃ message, Environment.readVariable entry.2 = .panic message)
        ∧ ∃ message, loader.load refusal disk env = .panic message := by
  rcases Environment.layer_cases hregular honce with
    ⟨hall, members, hlayer, hkeyed, hvalues⟩ | ⟨hpanic, message, hlayer⟩
  · refine Or.inl ⟨hall, Environment.origin loader.namePrefix, members, ?_, hkeyed, hvalues⟩
    rw [load, hlayer]
    rfl
  · refine Or.inr ⟨hpanic, message, ?_⟩
    rw [load, hlayer]
    rfl

/-- **Settings are chosen one by one.** Let the sections of the selected file be tables where they are
    present, and let every variable under the prefix name one setting or have nothing to do with any,
    no two of them naming the same.

    * A variable names a setting if its name is spelled as the prefix, the section and the key with two
      underscores in between, in any case.
    * An explicit path that leads to a file selects it.
    * A load panics exactly if the text of some variable under the prefix makes the reader of texts
      panic. That takes a wide character.
    * A load succeeds exactly if no variable panics, the selected file is well formed, every chosen value
      can be read as its setting, and the configuration made of them is accepted. The configuration is
      that one.
    * Any error is one of the configuration. -/
theorem load_settings (loader : ConfigLoader) (refusal : TomlRefusal) (disk : Disk)
    (env : Environment)
    (hfile : ∀ content members, loader.selectedContent? disk = some content →
      readFile? content = some members → Toml.SectionsOpen members)
    (hregular : ∀ entry ∈ env.underPrefix loader.namePrefix, Setting.Regular entry.1)
    (honce : Environment.NamedOnce (env.underPrefix loader.namePrefix)) :
    let entries := env.underPrefix loader.namePrefix
    (∀ (s : Setting) (name : String),
        (∀ c ∈ loader.namePrefix.toList.head?, Text.isBlank c = false) →
        name.toList.map Char.toLower
          = (Environment.nameOf loader.namePrefix s).toList.map Char.toLower →
        Environment.path? loader.namePrefix name = some s.path)
      ∧ (∀ path names content, loader.explicitPath = some path →
        disk.resolve path = .ok (names, .file content) →
        loader.selectedContent? disk = some content)
      ∧ ((∃ message, loader.load refusal disk env = .panic message)
        ↔ ∃ entry ∈ entries, ∃ message, Environment.readVariable entry.2 = .panic message)
      ∧ (∀ text message, Environment.readVariable text = .panic message →
        ∃ c ∈ text.toList, c.utf8Size ≠ 1)
      ∧ (∀ config, loader.load refusal disk env = .ok config
        ↔ (∀ entry ∈ entries, ∃ value, Environment.readVariable entry.2 = .ok value)
          ∧ (∀ content, loader.selectedContent? disk = some content →
            ∃ parsed, readFile? content = some parsed)
          ∧ (∀ s : Setting, s.convert (loader.chosen? disk env s) = .ok (Setting.of config s))
          ∧ config.validate = .ok ())
      ∧ ∀ err, loader.load refusal disk env = .error err → err.IsConfiguration := by
  intro entries
  refine ⟨fun s name hlead h => Environment.path?_of_spelled hlead h,
    fun path names content => selectedContent?_of_resolve, ?_, ?_, ?_, ?_⟩
  · -- the texts of the variables alone decide about a panic
    rcases load_cases refusal disk hregular honce with
      ⟨hall, origin, members, hload, -, -⟩ | ⟨hpanic, message, hload⟩
    · refine iff_of_false ?_ ?_
      · rintro ⟨message, hpanic⟩
        rw [hload] at hpanic
        exact Outcome.ofExcept_ne_panic _ message hpanic
      · rintro ⟨entry, hentry, message, hpanic⟩
        obtain ⟨value, hvalue⟩ := hall entry hentry
        rw [hvalue] at hpanic
        cases hpanic
    · exact iff_of_true ⟨message, hload⟩ hpanic
  · exact fun text message h => Environment.exists_wide_of_panic h
  · intro config
    rcases load_cases refusal disk hregular honce with
      ⟨hall, origin, members, hload, hkeyed, hvalues⟩ | ⟨⟨entry, hentry, cut, hcut⟩, message, hload⟩
    · rw [hload, and_iff_right hall]
      refine Iff.trans ⟨Outcome.ofExcept_eq_ok, fun h => ?_⟩
        (combine_eq_ok_iff hfile hkeyed hvalues config)
      rw [h]
      rfl
    · refine iff_of_false (fun h => ?_) fun h => ?_
      · rw [hload] at h
        cases h
      · obtain ⟨value, hvalue⟩ := h.1 entry hentry
        rw [hcut] at hvalue
        cases hvalue
  · intro err herr
    rcases load_cases refusal disk hregular honce with
      ⟨-, origin, members, hload, -, -⟩ | ⟨-, message, hload⟩
    · rw [hload] at herr
      exact isConfiguration_of_combine (Outcome.ofExcept_eq_error herr)
    · rw [hload] at herr
      cases herr

/-- A note that no setting has to do with, in quotes and with an escape. -/
def wideNote : Environment := ⟨[("PUBIND__EXTRA__NOTE", "\"aé\\t\"")]⟩

/-- One setting, its name in mixed case. -/
def mixedCase : Environment := ⟨[("pubind__Discovery__INCLUDE_linked", "false")]⟩

/-- The note makes a load panic; the setting is taken, and all others have their defaults. -/
theorem load_settings_wide_note :
    (∃ message, ({} : ConfigLoader).load (fun _ => "") {} wideNote = .panic message)
      ∧ ({} : ConfigLoader).load (fun _ => "") {} mixedCase
        = .ok { discovery := { includeLinked := false } } := by
  have hnothing : ({} : ConfigLoader).selectedContent? {} = none := by decide
  have hfile : ∀ content members, ({} : ConfigLoader).selectedContent? {} = some content →
      readFile? content = some members → Toml.SectionsOpen members := by
    intro content members hcontent
    rw [hnothing] at hcontent
    cases hcontent
  constructor
  · have hnote : wideNote.underPrefix configPrefix = [(["extra", "note"], "\"aé\\t\"")] := by decide
    have hregular : ∀ entry ∈ wideNote.underPrefix configPrefix, Setting.Regular entry.1 := by
      intro entry hentry
      rw [hnote] at hentry
      rw [List.mem_singleton.1 hentry]
      exact Or.inr fun s => by cases s <;> exact ⟨by decide, by decide⟩
    have honce : Environment.NamedOnce (wideNote.underPrefix configPrefix) := by
      rw [hnote]
      exact List.pairwise_singleton _ _
    have hread : ∃ message, Environment.readVariable "\"aé\\t\"" = .panic message := ⟨_, rfl⟩
    obtain ⟨-, -, hpanic, -⟩ := load_settings {} (fun _ => "") {} wideNote hfile hregular honce
    exact hpanic.2 ⟨_, hnote ▸ List.mem_singleton_self _, hread⟩
  · have hnamed : mixedCase.underPrefix configPrefix
        = [(Setting.path .includeLinked, "false")] := by decide
    have hregular : ∀ entry ∈ mixedCase.underPrefix configPrefix, Setting.Regular entry.1 := by
      intro entry hentry
      rw [hnamed] at hentry
      rw [List.mem_singleton.1 hentry]
      exact Or.inl ⟨.includeLinked, rfl⟩
    have honce : Environment.NamedOnce (mixedCase.underPrefix configPrefix) := by
      rw [hnamed]
      exact List.pairwise_singleton _ _
    obtain ⟨-, -, -, -, hok, -⟩ := load_settings {} (fun _ => "") {} mixedCase hfile hregular honce
    refine (hok _).2 ⟨fun entry hentry => ?_, fun content hcontent => ?_, fun s => ?_, rfl⟩
    · have hentry : entry ∈ mixedCase.underPrefix configPrefix := hentry
      rw [hnamed] at hentry
      rw [List.mem_singleton.1 hentry]
      exact ⟨_, rfl⟩
    · rw [hnothing] at hcontent
      cases hcontent
    · have hnamed : mixedCase.underPrefix ({} : ConfigLoader).namePrefix
        = [(Setting.path .includeLinked, "false")] := hnamed
      rw [chosen?, Environment.valueFor?, hnamed]
      cases s <;> rfl

end ConfigLoader

end UnitBinding
