import UnitBinding.Config.Environment
import UnitBinding.Config.Printer
import UnitBinding.ErrorContext
import UnitBinding.Storage.Disk
import UnitBinding.Toml.Parser

set_option autoImplicit false

/-! # Loading and saving configuration

A configuration is read from one file and from the environment, the environment lying over the file. An
explicit path names the file, which need not be there; without one, the first of two usual places where
something stands counts. What was read is validated. Saving writes a file that can be loaded.

What is wrong with a file that is not well formed is told by its reader, whose words are not fixed here: a
`TomlRefusal` gives them for the text of a file. -/

namespace UnitBinding

/-! ## Places -/

/-- The usual name of a configuration file. -/
def configFileName : String := "pubind.toml"

/-- The directory in which the file may lie as well. -/
def configDirectory : String := "pubind"

/-- The usual prefix of variables. -/
def configPrefix : String := "PUBIND"

/-- The usual places of the file, in the current directory. -/
def configPlaces : List RawText :=
  [.ofText configFileName, Path.join (.ofText configDirectory) (.ofText configFileName)]

/-- Where to look for configuration. -/
structure ConfigLoader where
  explicitPath : Option RawText := none
  /-- The prefix of variables, without the separator behind it. -/
  namePrefix : String := configPrefix
  deriving DecidableEq, Inhabited

/-- What the reader of files says of a text that is not well formed. -/
abbrev TomlRefusal := String → String

namespace ConfigLoader

/-- The file that is read, if there is one. A directory that stands in the place of a file has nothing
    to read, but an explicit path may start further up. -/
def selectedFile? (loader : ConfigLoader) (disk : Disk) : Option Disk.FoundFile :=
  match loader.explicitPath with
  | some path => if disk.holds path then disk.find? path else none
  | none => (configPlaces.find? disk.holds).bind (disk.fileFrom? disk.current)

/-! ## Loading -/

/-- What a failure to read settings is a part of. -/
def extractionContext : String := "Failed to extract configuration"

/-- What is wrong with a file that is no text. -/
def noText : String := "stream did not contain valid UTF-8"

/-- The error for a file that cannot be read. -/
def malformedFile (shown complaint : String) : Error :=
  (Failure.foreign (complaint ++ " in " ++ (Origin.file shown).describe) .none).inContext
    .configuration extractionContext

/-- The members of the root table of a file. -/
def fileMembers (refusal : TomlRefusal) (shown : String) (content : RawText) :
    Except Error (List (String × ConfigTree)) :=
  match content.text? with
  | none => .error (malformedFile shown noText)
  | some text =>
    match Toml.parse? text with
    | none => .error (malformedFile shown (refusal text))
    | some members =>
      .ok (ConfigTree.ofMembers (.file shown) (ConfigValue.ofTomlMembers members))

/-- The members of the selected file; none without a file. -/
def selectedMembers (loader : ConfigLoader) (refusal : TomlRefusal) (disk : Disk) :
    Except Error (List (String × ConfigTree)) :=
  match loader.selectedFile? disk with
  | none => .ok []
  | some file => fileMembers refusal file.shown file.content

/-- The members of all layers, of which the environment is the upper one. -/
def layered (members : List (String × ConfigTree)) : ConfigTree → List (String × ConfigTree)
  | .leaf _ _ => members
  | .table _ upper => ConfigTree.overlayMembers members upper

/-- The configuration in the members of all layers. -/
def extract (members : List (String × ConfigTree)) : Except Error AppConfig :=
  withContext .configuration extractionContext
    (match AppConfig.ofTree members with
    | .ok config => .ok config
    | .error fault => .error (.foreign fault.message .none))

/-- The configuration in a file and the environment over it. -/
def combine (loader : ConfigLoader) (refusal : TomlRefusal) (disk : Disk) (upper : ConfigTree) :
    Except Error AppConfig := do
  let members ← loader.selectedMembers refusal disk
  let config ← extract (layered members upper)
  config.validate
  return config

/-- Load a configuration and validate it. The environment is read before a fault of the file
    matters. -/
def load (loader : ConfigLoader) (refusal : TomlRefusal) (disk : Disk) (env : Environment) :
    Outcome AppConfig :=
  (env.layer loader.namePrefix).bind fun upper =>
    Outcome.ofExcept (loader.combine refusal disk upper)

/-! ## Saving -/

/-- Write a configuration to a file: the disk afterwards. -/
def save (config : AppConfig) (path : RawText) (disk : Disk) : Except Error Disk := do
  let text ← withContext .other "Failed to serialize config to TOML"
    (config.toToml.mapError fun fault => .foreign fault .none)
  withContext .environment ("Failed to write config file " ++ path.display)
    ((disk.writeFile path (.ofText text)).mapError fun fault => .foreign fault.message .none)

end ConfigLoader

end UnitBinding
