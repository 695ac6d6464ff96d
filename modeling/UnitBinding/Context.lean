import UnitBinding.Config.Basic
import UnitBinding.Provider

set_option autoImplicit false

/-! # Application contexts

A context is what a program starts from: metadata, an accessor cache over it sized by the configuration,
a service registry, and the transaction platform that providers are handed out with. A process may have
one process-wide cache; `ProcessCache` says which it is, and once installed it stays. -/

namespace UnitBinding

/-! ## Building caches -/

/-- The longest idle time that a cache can be built with: a thousand years of 365 days, in
    milliseconds. -/
def longestIdle : Nat := 1000 * 365 * 24 * 60 * 60 * 1000

/-- The end of an attempt to build a cache with a longer idle time. -/
def idleTooLong : String := "time_to_idle is longer than 1000 years"

/-- Build a cache without entries. -/
def AccessorCache.build {σ : Type} (limits : CacheLimits) : Outcome (AccessorCache σ) :=
  if limits.idle.any (longestIdle < ·) then .panic idleTooLong else .ok (.ofLimits limits)

/-- The limits that a configuration sets. -/
def AccessorCacheConfig.limits (c : AccessorCacheConfig) : CacheLimits :=
  ⟨c.maxCapacity, c.timeToIdle.map (· * 1000)⟩

/-! ## The process-wide cache -/

/-- Which cache is the process-wide one, by the serial of its instance. -/
structure ProcessCache where
  installed : Option Nat := none
  deriving DecidableEq, Inhabited

namespace ProcessCache

/-- The error for a second installation. -/
def alreadyInstalled : Error := .internal "Global accessor cache is already installed"

/-- Make a cache the process-wide one: the cache that is it now. -/
def install (process : ProcessCache) (serial : Nat) : Except Error Nat × ProcessCache :=
  match process.installed with
  | none => (.ok serial, ⟨some serial⟩)
  | some _ => (.error alreadyInstalled, process)

/-- Whatever is installed stays. -/
theorem install_installed (process : ProcessCache) (first serial : Nat)
    (h : process.installed = some first) : (process.install serial).2 = process := by
  simp [install, h]

end ProcessCache

/-! ## Contexts -/

/-- The parts that a program starts from. -/
structure AppContext (σ : Type) where
  config : AppConfig
  metadata : Metadata σ
  cache : Shared (AccessorCache σ)
  services : ServiceRegistry
  platform : TransactionPlatform

namespace AppContext

variable {σ : Type}

/-- A context with a cache, and without metadata and services. -/
def start (config : AppConfig) (platform : TransactionPlatform)
    (cache : Shared (AccessorCache σ)) : AppContext σ :=
  { config, platform, cache
    metadata := Metadata.empty
    services := ServiceRegistry.new config.discovery.includeLinked }

/-- Start from a configuration. It is validated, then the cache is built as the instance with a serial,
    then that becomes the process-wide one if the configuration says so. -/
def init (process : ProcessCache) (config : AppConfig) (platform : TransactionPlatform)
    (serial : Nat) : Outcome (AppContext σ) × ProcessCache :=
  match config.validate with
  | .error err => (.error err, process)
  | .ok () =>
    match AccessorCache.build config.accessorCache.limits with
    | .error err => (.error err, process)
    | .panic message => (.panic message, process)
    | .ok cache =>
      let context := start config platform ⟨serial, cache⟩
      if config.accessorCache.installGlobal then
        match process.install serial with
        | (.ok _, process) => (.ok context, process)
        | (.error err, process) => (.error err, process)
      else (.ok context, process)

/-- The provider for a requesting bundle. -/
def providerFor (context : AppContext σ) (bundle : Bundle) : Provider :=
  ⟨context.platform, bundle⟩

/-- The form that diagnostics show. -/
def debug (context : AppContext σ) (now : Nat) : String :=
  "AppContext \x7b config: " ++ context.config.debug ++ ", metadata: " ++ context.metadata.debug
    ++ ", accessor_cache: " ++ context.cache.value.debug now ++ ", services: "
    ++ context.services.debug ++ ", .. \x7d"

end AppContext

end UnitBinding
