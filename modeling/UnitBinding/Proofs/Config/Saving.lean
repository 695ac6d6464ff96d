import Mathlib.Algebra.Group.Nat.Defs
import UnitBinding.Proofs.Config.Loading
import UnitBinding.Proofs.Config.Printing

set_option autoImplicit false

/-! # Saving a configuration and loading it again

A saved configuration is loaded as it was, or not at all. The file that a save leaves on the disk is the
one that an explicit path selects (`ConfigLoader.selectedContent?_of_save`). It says every setting that
has a value (`AppConfig.parse?_fileText`), each of them is read back as itself, and what has no value is
not in the file and gets its default, which is to have none (`Setting.convert_inFile`). Numbers are
written without regard to their size but read as signed integers, so that a larger one makes the file
unreadable. -/

namespace UnitBinding

/-! ## The settings in a written file -/

/-- The sections of a written file are tables. -/
theorem AppConfig.sectionsOpen_tomlMembers (c : AppConfig) (output : Option String) :
    Toml.SectionsOpen (c.tomlMembers output) := by
  intro s value hvalue
  cases s <;> exact ⟨_, (Option.some.inj hvalue).symm⟩

/-- Every setting is read back as itself, with or without a line of its own. -/
theorem Setting.convert_inFile {c : AppConfig} {output : Option String}
    (h : c.logging.fileOutput = output.map RawText.ofText) (s : Setting) :
    s.convert (s.inFile (c.tomlMembers output)) = .ok (Setting.of c s) := by
  cases s with
  | fileOutput =>
    rw [of, h]
    cases output <;> rfl
  | maxFiles => cases output <;> rfl
  | level | jsonFormat | maxCapacity | timeToIdleSecs | installGlobal | includeLinked => rfl

namespace ConfigLoader

variable {loader : ConfigLoader} {refusal : TomlRefusal} {disk after : Disk} {path : RawText}
  {config : AppConfig} {output : Option String}

/-! ## Loading without variables -/

/-- Without variables the file counts alone. -/
theorem load_of_no_variables (refusal : TomlRefusal) (disk : Disk) {env : Environment}
    (h : env.underPrefix loader.namePrefix = []) :
    loader.load refusal disk env = Outcome.ofExcept
      (loader.combine refusal disk (.table (Environment.origin loader.namePrefix) [])) := by
  rw [load, Environment.layer, h]
  rfl

/-- A file with the settings of a valid configuration gives that configuration. -/
theorem combine_saved (houtput : config.logging.fileOutput = output.map RawText.ofText)
    (hcontent : loader.selectedContent? disk = some (.ofText (config.fileText output)))
    (hrange : config.InRange) (hvalid : config.validate = .ok ()) (origin : Origin) :
    loader.combine refusal disk (.table origin []) = .ok config := by
  have hread : readFile? (.ofText (config.fileText output)) = some (config.tomlMembers output) :=
    (readFile?_ofText _).trans (AppConfig.parse?_fileText hrange output)
  have hfile : ∀ content members, loader.selectedContent? disk = some content →
      readFile? content = some members → Toml.SectionsOpen members := by
    intro content members hselected hmembers
    obtain rfl := Option.some.inj (hcontent.symm.trans hselected)
    obtain rfl := Option.some.inj (hread.symm.trans hmembers)
    exact config.sectionsOpen_tomlMembers output
  -- the layer of the variables sets nothing
  have hnone : ∀ s : Setting,
      s.find [] = (Function.const Setting none s).map ConfigValue.outline := fun _ => rfl
  refine (combine_eq_ok_iff hfile ConfigTree.keyed_nil hnone config).2
    ⟨fun content hselected => ?_, fun s => ?_, hvalid⟩
  · obtain rfl := Option.some.inj (hcontent.symm.trans hselected)
    exact ⟨_, hread⟩
  · rw [Function.const_apply, Option.none_or, fileValue?, hcontent, Option.bind_some, hread,
      Option.bind_some]
    exact Setting.convert_inFile houtput s

/-- A file that cannot be read is a fault. -/
theorem combine_malformed (refusal : TomlRefusal) {content : RawText}
    (hcontent : loader.selectedContent? disk = some content) (hread : readFile? content = none)
    (upper : ConfigTree) :
    ∃ err, loader.combine refusal disk upper = .error err ∧ err.IsConfiguration := by
  rw [← map_selectedFile?] at hcontent
  obtain ⟨file, hselected, rfl⟩ := Option.map_eq_some_iff.1 hcontent
  obtain ⟨complaint, hmembers⟩ := fileMembers_of_readFile?_eq_none refusal hread file.shown
  have hcombine : loader.combine refusal disk upper
      = .error (malformedFile file.shown complaint) := by
    rw [combine, selectedMembers, hselected]
    dsimp only
    rw [hmembers]
    rfl
  exact ⟨_, hcombine, isConfiguration_of_combine hcombine⟩

/-! ## Saving -/

/-- A save writes the text of the configuration, and nothing else. -/
theorem save_eq (houtput : config.logging.fileOutput = output.map RawText.ofText)
    {names : List RawText} (hwritable : disk.target path = .ok names) :
    save config path disk
      = .ok (disk.put names (.file (.ofText (config.fileText output)))) := by
  rw [save, AppConfig.toToml_eq houtput]
  refine bind_eq_ok_iff.2 ⟨_, rfl, ?_⟩
  rw [Disk.writeFile, hwritable]
  rfl

/-- A path that is no text is not saved. -/
theorem save_of_not_text (h : ¬ config.logging.OutputIsText) (path : RawText) (disk : Disk) :
    ∃ err, save config path disk = .error err := by
  rw [save, AppConfig.toToml_of_not_text h]
  exact ⟨_, rfl⟩

/-- **The file that was saved is selected** by its path. -/
theorem selectedContent?_of_save (houtput : config.logging.fileOutput = output.map RawText.ofText)
    {names : List RawText} (hwritable : disk.target path = .ok names)
    (hsave : save config path disk = .ok after) (hexplicit : loader.explicitPath = some path) :
    loader.selectedContent? after = some (.ofText (config.fileText output)) := by
  obtain rfl := Except.ok.inj ((save_eq houtput hwritable).symm.trans hsave)
  exact selectedContent?_of_resolve hexplicit (Disk.resolve_put hwritable _)

section AfterSave

variable (houtput : config.logging.fileOutput = output.map RawText.ofText) {names : List RawText}
  (hwritable : disk.target path = .ok names) (hsave : save config path disk = .ok after)
  (hexplicit : loader.explicitPath = some path) (refusal : TomlRefusal) {env : Environment}
  (hnone : env.underPrefix loader.namePrefix = [])
include houtput hwritable hsave hexplicit hnone

theorem load_of_save (hvalid : config.validate = .ok ()) (hrange : config.InRange) :
    loader.load refusal after env = .ok config := by
  have hcontent := selectedContent?_of_save houtput hwritable hsave hexplicit
  rw [load_of_no_variables refusal after hnone, combine_saved houtput hcontent hrange hvalid]
  rfl

theorem error_of_save (hrange : ¬ config.InRange) :
    ∃ err, loader.load refusal after env = .error err ∧ err.IsConfiguration := by
  have hcontent := selectedContent?_of_save houtput hwritable hsave hexplicit
  have hread : readFile? (.ofText (config.fileText output)) = none :=
    (readFile?_ofText _).trans (AppConfig.parse?_fileText_of_not_inRange hrange output)
  obtain ⟨err, hcombine, herr⟩ := combine_malformed refusal hcontent hread
    (.table (Environment.origin loader.namePrefix) [])
  rw [load_of_no_variables refusal after hnone, hcombine]
  exact ⟨err, rfl, herr⟩

end AfterSave

/-- **A saved configuration is loaded as it was, or not at all.** Take any valid configuration, with any
    text for its level and its path, any disk, and any path under which a file can be written. Save the
    configuration to the path, and load it from the disk as it is then, with the path as the explicit
    one and no variable under the prefix.

    * The save succeeds and changes nothing on the disk but the file under the path.
    * If the three numbers are within the range of signed integers of sixty-four bits, the load gives the
      configuration.
    * If one of them is not, the load fails with an error of the configuration.
    * The load never gives another configuration.

    A configuration whose path is no text is not saved. -/
theorem load_saved {config : AppConfig} (hvalid : config.validate = .ok ()) {path : RawText}
    {disk : Disk} {names : List RawText} (hwritable : disk.target path = .ok names)
    {loader : ConfigLoader} (hexplicit : loader.explicitPath = some path) (refusal : TomlRefusal)
    {env : Environment} (hnone : env.underPrefix loader.namePrefix = []) :
    let inRange := config.logging.maxFiles ≤ 2 ^ 63 - 1
      ∧ config.accessorCache.maxCapacity ≤ 2 ^ 63 - 1
      ∧ config.accessorCache.timeToIdleSecs ≤ 2 ^ 63 - 1
    (config.logging.OutputIsText → ∃ after, save config path disk = .ok after
        ∧ after.current = disk.current ∧ (∀ q, q ≠ names → after.node? q = disk.node? q)
        ∧ (inRange → loader.load refusal after env = .ok config)
        ∧ (¬ inRange → ∃ err, loader.load refusal after env = .error err ∧ err.IsConfiguration))
      ∧ (∀ after other, save config path disk = .ok after →
        loader.load refusal after env = .ok other → other = config)
      ∧ (¬ config.logging.OutputIsText → ∃ err, save config path disk = .error err) := by
  intro inRange
  have hrange : inRange ↔ config.InRange := by
    have hlimit : Toml.integerLimit = 2 ^ 63 := rfl
    constructor
    · rintro ⟨hfiles, hcapacity, hidle⟩
      exact ⟨by omega, by omega, by omega⟩
    · rintro ⟨hfiles, hcapacity, hidle⟩
      exact ⟨by omega, by omega, by omega⟩
  refine ⟨?_, fun after other hsave hload => ?_, fun h => save_of_not_text h path disk⟩
  · rintro ⟨output, houtput⟩
    have hsave := save_eq houtput hwritable
    exact ⟨_, hsave, rfl, fun q hq => Disk.node?_put_of_ne disk hq _,
      fun h => load_of_save houtput hwritable hsave hexplicit refusal hnone hvalid (hrange.1 h),
      fun h => error_of_save houtput hwritable hsave hexplicit refusal hnone (mt hrange.2 h)⟩
  · by_cases htext : config.logging.OutputIsText
    · obtain ⟨output, houtput⟩ := htext
      by_cases h : config.InRange
      · have hgood := load_of_save houtput hwritable hsave hexplicit refusal hnone hvalid h
        exact Outcome.ok.inj (hload.symm.trans hgood)
      · obtain ⟨err, herr, -⟩ := error_of_save houtput hwritable hsave hexplicit refusal hnone h
        cases hload.symm.trans herr
    · obtain ⟨err, herr⟩ := save_of_not_text htext path disk
      cases hsave.symm.trans herr

/-- A log file whose name holds both kinds of quotes, tripled, a backslash, line ends and a control
    character. -/
def trickyConfig : AppConfig :=
  { logging := { fileOutput := some (.ofText "a\"\"\"\"b'''\\\r\n\x01\"") } }

/-- A cache of a size that a file can name but not give back. -/
def wideConfig : AppConfig := { accessorCache := { maxCapacity := 2 ^ 63 } }

/-- A loader of one file, by a path that leads through a directory and back. -/
def roundaboutLoader : ConfigLoader := { explicitPath := some (.ofText "../scratch/./c") }

/-- The name of the log file survives; the other configuration is saved, and cannot be loaded. -/
theorem load_saved_tricky :
    trickyConfig.validate = .ok () ∧ wideConfig.validate = .ok ()
      ∧ (∃ after, save trickyConfig (.ofText "../scratch/./c") (Disk.scratch []) = .ok after
        ∧ roundaboutLoader.load (fun _ => "") after Table.empty = .ok trickyConfig)
      ∧ ∃ after, save wideConfig (.ofText "../scratch/./c") (Disk.scratch []) = .ok after
        ∧ ∃ err, roundaboutLoader.load (fun _ => "") after Table.empty = .error err := by
  have htricky : trickyConfig.validate = .ok () := rfl
  have hwide : wideConfig.validate = .ok () := rfl
  have hnone : Environment.underPrefix Table.empty roundaboutLoader.namePrefix = [] := rfl
  have hwritable : (Disk.scratch []).target (.ofText "../scratch/./c")
      = .ok [.ofText "tmp", .ofText "scratch", .ofText "c"] := rfl
  have hexplicit : roundaboutLoader.explicitPath = some (.ofText "../scratch/./c") := rfl
  obtain ⟨htrickySaved, -⟩ := load_saved htricky hwritable hexplicit (fun _ => "") hnone
  obtain ⟨after, hsave, -, -, hload, -⟩ := htrickySaved ⟨some _, rfl⟩
  obtain ⟨hwideSaved, -⟩ := load_saved hwide hwritable hexplicit (fun _ => "") hnone
  obtain ⟨left, hwideSave, -, -, -, hfails⟩ := hwideSaved ⟨none, rfl⟩
  obtain ⟨err, herr, -⟩ := hfails (by decide)
  exact ⟨htricky, hwide, ⟨after, hsave, hload (by decide)⟩, left, hwideSave, err, herr⟩

end ConfigLoader

end UnitBinding
