import UnitBinding.Config.Basic
import UnitBinding.Toml.Style

set_option autoImplicit false

/-! # Writing configuration

A configuration as the text of a file: a table for each section and a line for each setting, in the
order of their declaration. A setting without a value has no line, and a path that is no text cannot be
written. -/

namespace UnitBinding

namespace AppConfig

/-- A truth value in a file. -/
def renderFlag (b : Bool) : List Char := if b then ['t', 'r', 'u', 'e'] else ['f', 'a', 'l', 's', 'e']

/-- A number in a file. -/
def renderNumber (n : Nat) : List Char := Nat.toDigits 10 n

/-- The line of one setting. -/
def settingLine (key : String) (value : List Char) : List Char :=
  key.toList ++ [' ', '=', ' '] ++ value ++ ['\n']

/-- The header of a section. -/
def sectionLine (name : String) : List Char := '[' :: name.toList ++ [']', '\n']

/-- The lines of a section, with the path of the log file as a text. -/
def loggingLines (c : LoggingConfig) (fileOutput : Option String) : List Char :=
  sectionLine "logging"
    ++ settingLine "level" (Toml.renderText c.level.toList)
    ++ settingLine "json_format" (renderFlag c.jsonFormat)
    ++ (match fileOutput with
        | none => []
        | some text => settingLine "file_output" (Toml.renderText text.toList))
    ++ settingLine "max_files" (renderNumber c.maxFiles)

/-- The lines of a section. -/
def accessorCacheLines (c : AccessorCacheConfig) : List Char :=
  sectionLine "accessor_cache"
    ++ settingLine "max_capacity" (renderNumber c.maxCapacity)
    ++ settingLine "time_to_idle_secs" (renderNumber c.timeToIdleSecs)
    ++ settingLine "install_global" (renderFlag c.installGlobal)

/-- The lines of a section. -/
def discoveryLines (c : DiscoveryConfig) : List Char :=
  sectionLine "discovery" ++ settingLine "include_linked" (renderFlag c.includeLinked)

/-- The text of a file, an empty line between sections. There is none for a path that is no text. -/
def toToml (c : AppConfig) : Encoded String := do
  let fileOutput ← c.logging.outputText
  return String.ofList
    (loggingLines c.logging fileOutput ++ '\n' :: accessorCacheLines c.accessorCache
      ++ '\n' :: discoveryLines c.discovery)

end AppConfig

end UnitBinding
