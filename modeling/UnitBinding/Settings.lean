import UnitBinding.Bundle
import UnitBinding.Table

set_option autoImplicit false

/-! # Settings of a persistence unit

The settings handed to a builder map keys to values. Callers supply plain data values; the provider
adds typed entries under the recognised keys. One key has one value. -/

namespace UnitBinding

/-! ## Recognised keys -/

/-- The key of the transaction platform. -/
def transactionPlatformKey : String := "pubind.transaction.platform"

/-- The key of the integrator list. -/
def integratorsKey : String := "pubind.integrator_provider"

/-- The key of the list of strategy sources. -/
def strategiesKey : String := "pubind.strategy_registration_providers"

/-- The key of the list of type contributors. -/
def contributorsKey : String := "pubind.type_contributors"

/-- The key of the scanner. -/
def scannerKey : String := "pubind.archive.scanner"

/-- All recognised keys, in the order in which a composition writes them. -/
def recognizedKeys : List String :=
  [transactionPlatformKey, integratorsKey, strategiesKey, contributorsKey, scannerKey]

/-! ## Values -/

/-- The transaction coordination of the hosting program. -/
structure TransactionPlatform where
  name : String
  /-- Whether synchronisations can be registered with it. -/
  canRegisterSynchronization : Bool
  deriving DecidableEq, Inhabited

/-- The value of one setting. -/
inductive SettingValue where
  /-- Plain configuration, passed through unchanged. -/
  | value (data : Json)
  /-- The transaction platform of the host. -/
  | platform (host : TransactionPlatform)
  | integrators (list : ContributionList Integrator)
  | strategies (list : ContributionList StrategyProvider)
  | contributors (list : ContributionList TypeContributor)
  /-- A scanner over a bundle. -/
  | scanner (bundle : Bundle)
  deriving Inhabited

namespace SettingValue

/-- The plain value, if this is one. -/
def asValue? : SettingValue → Option Json
  | .value data => some data
  | _ => none

/-- The plain text, if this is one. -/
def asText? : SettingValue → Option String
  | .value (.str s) => some s
  | _ => none

/-- The transaction platform, if this is one. -/
def asPlatform? : SettingValue → Option TransactionPlatform
  | .platform host => some host
  | _ => none

/-- The integrator list, if this is one. -/
def asIntegrators? : SettingValue → Option (ContributionList Integrator)
  | .integrators list => some list
  | _ => none

/-- The list of strategy sources, if this is one. -/
def asStrategies? : SettingValue → Option (ContributionList StrategyProvider)
  | .strategies list => some list
  | _ => none

/-- The list of type contributors, if this is one. -/
def asContributors? : SettingValue → Option (ContributionList TypeContributor)
  | .contributors list => some list
  | _ => none

/-- The scanned bundle, if this is a scanner. -/
def asScanner? : SettingValue → Option Bundle
  | .scanner bundle => some bundle
  | _ => none

end SettingValue

/-! ## The map -/

/-- The settings of a unit, by key. -/
abbrev Settings := Table String SettingValue

namespace Settings

/-- Settings from plain values; of several values for one key the last counts. -/
def ofValues (pairs : List (String × Json)) : Settings :=
  Table.ofList (pairs.map fun pair => (pair.1, .value pair.2))

end Settings

end UnitBinding
