import UnitBinding.Config.Loader
import UnitBinding.Context

set_option autoImplicit false

/-! # Starting from a validated configuration

A configuration that was loaded has been validated, and a validated configuration should be good to
start from. The validation, the conversion of the idle time and the construction of the cache each
have a bound of their own in mind: `AccessorCache.build_limits` says which configurations a cache
can be built for, and `AppContext.init_of_validate` what becomes of a start. They do not fit
together: idle times beyond a thousand years pass the validation, and no cache can be built with
them. -/

namespace UnitBinding

/-! ## Loaded configurations -/

/-- Combined layers have been validated. -/
theorem ConfigLoader.validate_of_combine {loader : ConfigLoader} {refusal : TomlRefusal}
    {disk : Disk} {upper : ConfigTree} {config : AppConfig}
    (h : loader.combine refusal disk upper = .ok config) :
    config.validate = .ok () := by
  obtain ⟨members, -, h⟩ := bind_eq_ok_iff.1 h
  obtain ⟨extracted, -, h⟩ := bind_eq_ok_iff.1 h
  obtain ⟨checked, hvalid, h⟩ := bind_eq_ok_iff.1 h
  obtain rfl := Except.ok.inj h
  exact hvalid

/-- A loaded configuration has been validated. -/
theorem ConfigLoader.validate_of_load {loader : ConfigLoader} {refusal : TomlRefusal}
    {disk : Disk} {env : Environment} {config : AppConfig}
    (h : loader.load refusal disk env = .ok config) :
    config.validate = .ok () := by
  obtain ⟨upper, -, hcombine⟩ := Outcome.bind_eq_ok h
  exact validate_of_combine (Outcome.ofExcept_eq_ok hcombine)

/-! ## Caches for a configuration -/

/-- The longest idle time that a cache can be built with, in seconds. -/
def longestIdleSeconds : Nat := 31536000000

/-- The limits in the settings' own terms. -/
theorem AccessorCacheConfig.limits_eq (c : AccessorCacheConfig) :
    c.limits = ⟨c.maxCapacity,
      if c.timeToIdleSecs = 0 then none else some (c.timeToIdleSecs * 1000)⟩ := by
  rw [limits, timeToIdle]
  by_cases hzero : c.timeToIdleSecs = 0 <;> simp [hzero]

/-- A cache can be built for a configuration unless its idle time is too long. -/
theorem AccessorCache.build_limits {σ : Type} (c : AccessorCacheConfig) :
    AccessorCache.build (σ := σ) c.limits
      = if longestIdleSeconds < c.timeToIdleSecs then .panic idleTooLong
        else .ok (.ofLimits c.limits) := by
  have hany : c.limits.idle.any (longestIdle < ·)
      = decide (longestIdleSeconds < c.timeToIdleSecs) := by
    rw [c.limits_eq]
    by_cases hzero : c.timeToIdleSecs = 0
    · simp [hzero]
    · -- the one bound is in milliseconds, the other in seconds
      simp only [if_neg hzero, Option.any_some, longestIdle, longestIdleSeconds]
      congr 1
      apply propext
      omega
  rw [build, hany]
  by_cases hlong : longestIdleSeconds < c.timeToIdleSecs <;> simp [hlong]

/-! ## The start -/

namespace AppContext

variable {σ : Type}

/-- **What becomes of a start.** -/
theorem init_of_validate (process : ProcessCache) {config : AppConfig}
    (platform : TransactionPlatform) (serial : Nat) (h : config.validate = .ok ()) :
    AppContext.init (σ := σ) process config platform serial
      = if longestIdleSeconds < config.accessorCache.timeToIdleSecs then
          (.panic idleTooLong, process)
        else if config.accessorCache.installGlobal && process.installed.isSome then
          (.error ProcessCache.alreadyInstalled, process)
        else
          (.ok (start config platform ⟨serial, .ofLimits config.accessorCache.limits⟩),
            if config.accessorCache.installGlobal then ⟨some serial⟩ else process) := by
  rw [AppContext.init, h]
  simp only [AccessorCache.build_limits]
  by_cases hlong : longestIdleSeconds < config.accessorCache.timeToIdleSecs
  · simp only [if_pos hlong]
  · simp only [if_neg hlong]
    cases hglobal : config.accessorCache.installGlobal with
    | false => simp
    | true =>
      cases hinstalled : process.installed with
      | none => simp [ProcessCache.install, hinstalled]
      | some first => simp [ProcessCache.install, hinstalled]

/-- **Validated configurations start, unless entries are to idle for over a thousand years.** Take
    any configuration that was validated, be it by a loader or by itself. The start panics exactly
    if the idle time is too long, and then changes nothing. Otherwise it gives a context with a
    cache of the configured size, which becomes the one of the process if the configuration says
    so; only when there is one already does it fail, with an internal error. -/
theorem init_of_accepted (config : AppConfig)
    (h : config.validate = .ok () ∨ ∃ (loader : ConfigLoader) (refusal : TomlRefusal) (disk : Disk)
      (env : Environment), loader.load refusal disk env = .ok config)
    (process : ProcessCache) (platform : TransactionPlatform) (serial : Nat) :
    let seconds := config.accessorCache.timeToIdleSecs
    let limits : CacheLimits :=
      ⟨config.accessorCache.maxCapacity, if seconds = 0 then none else some (seconds * 1000)⟩
    let taken := config.accessorCache.installGlobal = true ∧ process.installed ≠ none
    let ended := AppContext.init (σ := σ) process config platform serial
    ((∃ message, ended.1 = .panic message) ↔ 31536000000 < seconds)
      ∧ (31536000000 < seconds → ended.2 = process)
      ∧ (seconds ≤ 31536000000 → taken →
        ended = (.error (.internal "Global accessor cache is already installed"), process))
      ∧ (seconds ≤ 31536000000 → ¬ taken →
        ∃ context, ended.1 = .ok context ∧ context.config = config
          ∧ context.cache = ⟨serial, .ofLimits limits⟩
          ∧ ended.2 = if config.accessorCache.installGlobal then ⟨some serial⟩ else process) := by
  intro seconds limits taken ended
  have hvalid : config.validate = .ok () := by
    rcases h with hvalid | ⟨loader, refusal, disk, env, hload⟩
    · exact hvalid
    · exact ConfigLoader.validate_of_load hload
  have hended := init_of_validate (σ := σ) process platform serial hvalid
  have hlimits : config.accessorCache.limits = limits := config.accessorCache.limits_eq
  have htaken :
      (config.accessorCache.installGlobal && process.installed.isSome) = true ↔ taken := by
    rw [Bool.and_eq_true, Option.isSome_iff_ne_none]
  have hlong : 31536000000 < seconds → ended = (.panic idleTooLong, process) := by
    intro hseconds
    exact hended.trans (if_pos hseconds)
  have hshort : seconds ≤ 31536000000 →
      ¬ longestIdleSeconds < config.accessorCache.timeToIdleSecs := Nat.not_lt.2
  have hfails : seconds ≤ 31536000000 → taken →
      ended = (.error ProcessCache.alreadyInstalled, process) := by
    intro hseconds hinstalled
    rw [if_neg (hshort hseconds), if_pos (htaken.2 hinstalled)] at hended
    exact hended
  have hstarts : seconds ≤ 31536000000 → ¬ taken →
      ended = (.ok (start config platform ⟨serial, .ofLimits limits⟩),
        if config.accessorCache.installGlobal then ⟨some serial⟩ else process) := by
    intro hseconds hfree
    rw [if_neg (hshort hseconds), if_neg (mt htaken.1 hfree), hlimits] at hended
    exact hended
  refine ⟨⟨?_, fun hseconds => ⟨idleTooLong, ?_⟩⟩, fun hseconds => ?_, hfails,
    fun hseconds hfree => ?_⟩
  · rintro ⟨message, hpanic⟩
    refine Nat.lt_of_not_le fun hseconds => ?_
    by_cases hinstalled : taken
    · rw [hfails hseconds hinstalled] at hpanic
      cases hpanic
    · rw [hstarts hseconds hinstalled] at hpanic
      cases hpanic
  · rw [hlong hseconds]
  · rw [hlong hseconds]
  · rw [hstarts hseconds hfree]
    exact ⟨_, rfl, rfl, rfl, rfl⟩

/-- A configuration file that sets one second more than the longest idle time. -/
def sampleDisk : Disk :=
  Disk.scratch [(configFileName, "accessor_cache.time_to_idle_secs = 31536000001")]

/-- The configuration in the file. -/
def sampleConfig : AppConfig := { accessorCache := { timeToIdleSecs := 31536000001 } }

/-- The file is loaded without complaint, and the program cannot start from it. -/
theorem init_of_accepted_idle_too_long :
    ConfigLoader.load {} (fun _ => "") sampleDisk Table.empty = .ok sampleConfig
      ∧ ∃ message, (AppContext.init (σ := Nat) {} sampleConfig ⟨"local", true⟩ 1).1
        = .panic message := by
  have hvalue : (ConfigLoader.load {} (fun _ => "") sampleDisk Table.empty).value?
      = some sampleConfig := by
    decide +kernel
  have hload := Outcome.value?_eq_some hvalue
  obtain ⟨hpanics, -⟩ :=
    init_of_accepted (σ := Nat) sampleConfig (Or.inr ⟨{}, _, sampleDisk, Table.empty, hload⟩)
      {} ⟨"local", true⟩ 1
  exact ⟨hload, hpanics.2 (by decide)⟩

end AppContext

end UnitBinding
