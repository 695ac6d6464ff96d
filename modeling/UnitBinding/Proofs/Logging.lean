import UnitBinding.Logging.Output
import UnitBinding.Proofs.Config.Naming

set_option autoImplicit false

/-! # The configured severity

The text of a configured severity is read twice: once to validate it, as a severity, and once as
the directive of a filter. A directive is a threshold only if it has one of the names of a threshold,
and else it names a target of which everything passes. So the two readings fit together for all names
but one (`LogFilter.enabled_ofLevelName`): `warning` is the name of a severity and of no threshold.

An installed subscriber adds to what was written what its filter lets pass, in the order of the
events and alike wherever it writes (`Logging.Writes`). `Logging.written_of_installation` says what
is written from the first installation on. -/

namespace UnitBinding

/-! ## The two readings of a name -/

/-- Lowering a digit leaves it as it is. -/
theorem toLower_of_isDigit {c : Char} (h : c.isDigit = true) : c.toLower = c := by
  simp only [Char.isDigit, ge_iff_le, Bool.and_eq_true, decide_eq_true_eq,
    UInt32.le_iff_toNat_le] at h
  change 48 ≤ c.toNat ∧ c.toNat ≤ 57 at h
  rw [← Char.toNat_inj, toNat_toLower, if_neg (by omega)]

/-- A text whose second character is a letter is no number, whatever its sign. -/
theorem Threshold.number?_eq_none {first second : Char} {rest : List Char}
    (h : second.toLower.isDigit = false) : number? (first :: second :: rest) = none := by
  have hsecond : second.isDigit = false := by
    cases hdigit : second.isDigit with
    | false => rfl
    | true => rw [toLower_of_isDigit hdigit, hdigit] at h; cases h
  by_cases hsign : first = '+'
  · subst hsign
    simp [number?, hsecond]
  · simp [number?, hsign, hsecond]

theorem Threshold.parse?_of_lowered {name : String} {first second : Char} {rest : List Char}
    (h : (LogLevel.lowered name).toList = first :: second :: rest)
    (hsecond : second.isDigit = false) : parse? name.toList = ofName? name := by
  have hnumber : number? name.toList = none := by
    unfold LogLevel.lowered at h
    rw [String.toList_ofList] at h
    obtain ⟨a, tail, hname, -, htail⟩ := List.map_eq_cons_iff.1 h
    obtain ⟨b, others, rfl, hb, -⟩ := List.map_eq_cons_iff.1 htail
    rw [hname]
    exact number?_eq_none (by rw [hb, hsecond])
  unfold parse?
  rw [hnumber, String.ofList_toList]

/-- **The two readings of a name.** All names of a severity but one are those of a threshold. -/
theorem Threshold.parse?_of_level {name : String} {level : LogLevel}
    (h : LogLevel.ofName? name = some level) :
    parse? name.toList
      = if LogLevel.lowered name = "warning" then none else some (some level) := by
  unfold LogLevel.ofName? at h
  split at h
  case h_7 => cases h
  all_goals
    next heq =>
      cases h
      rw [parse?_of_lowered (by rw [heq]; rfl) (by rfl)]
      simp [ofName?, heq]

/-! ## The filter of a name -/

namespace LogFilter

theorem enabled_threshold (threshold : Threshold) (target : String) (severity : LogLevel) :
    enabled [{ threshold }] target severity = threshold.any fun t => severity.atLeast t := by
  simp [enabled, deciding?, Directive.covers, Directive.isStatic]

/-- A target that the logged events do not have lets none of them pass. -/
theorem enabled_target {start : String} (h : start.toList.isPrefixOf logTarget.toList = false)
    (severity : LogLevel) : enabled [{ target := some start }] logTarget severity = false := by
  simp [enabled, deciding?, Directive.covers, h]

theorem isPrefixOf_logTarget {name : String} (h : LogLevel.lowered name = "warning") :
    name.toList.isPrefixOf logTarget.toList = false := by
  have hlist : name.toList.map Char.toLower = "warning".toList := by
    rw [← h, LogLevel.lowered, String.toList_ofList]
  obtain ⟨a, rest, hname, ha, -⟩ := List.map_eq_cons_iff.1 hlist
  have hne : a ≠ 'p' := by
    rintro rfl
    exact absurd ha (by decide)
  rw [hname]
  show ((a == 'p') && _) = false
  simp [hne]

/-- **What the name of a severity lets pass**: events of that severity or above, or nothing. -/
theorem enabled_ofLevelName {name : String} {level : LogLevel}
    (h : LogLevel.ofName? name = some level) (severity : LogLevel) :
    (ofLevelName name).enabled logTarget severity
      = (decide (LogLevel.lowered name ≠ "warning") && severity.atLeast level) := by
  unfold ofLevelName Directive.ofWord
  rw [Threshold.parse?_of_level h]
  by_cases hwarning : LogLevel.lowered name = "warning"
  · simp only [hwarning, if_true]
    rw [String.ofList_toList, enabled_target (isPrefixOf_logTarget hwarning)]
    rfl
  · simp [hwarning, enabled_threshold]

end LogFilter

/-! ## Runs of events -/

namespace Logging

variable {logging : Logging} {s : Subscriber}

/-- Some events have been written by a subscriber, wherever it writes. -/
structure Writes (before after : Logging) (s : Subscriber) (events : List LogEvent) : Prop where
  subscriber : after.subscriber = some s
  stdout : after.stdout = before.stdout ++ events.flatMap fun e => e.written s.form
  fileLines : after.fileLines = before.fileLines
    ++ if s.file.isSome then events.flatMap fun e => e.written s.form else []

/-- **One event.** -/
theorem Writes.log {before : Logging} {events : List LogEvent} (h : Writes before logging s events)
    (e : LogEvent) :
    Writes before (logging.log e) s
      (events ++ [e].filter fun e => s.filter.enabled logTarget e.level) := by
  unfold Logging.log
  rw [h.subscriber]
  cases henabled : s.filter.enabled logTarget e.level with
  | false => simpa [henabled] using h
  | true =>
    simp only [henabled, if_true]
    refine ⟨h.subscriber, ?_, ?_⟩
    · simp [Logging.write, henabled, h.stdout]
    · cases hfile : s.file.isSome <;> simp [Logging.write, henabled, h.fileLines, hfile]

/-- **A run of events.** -/
theorem Writes.logAll {before : Logging} {events : List LogEvent}
    (h : Writes before logging s events) (more : List LogEvent) :
    Writes before (more.foldl Logging.log logging) s
      (events ++ more.filter fun e => s.filter.enabled logTarget e.level) := by
  induction more generalizing logging events with
  | nil => simpa using h
  | cons e rest ih =>
    have hrest := ih (h.log e)
    rw [List.append_assoc, ← List.filter_append, List.singleton_append] at hrest
    exact hrest

/-! ## The first installation -/

/-- A prepared file is the one of the configured path, if there is one. -/
theorem file_of_openConfigured {disk left : Disk} {config : LoggingConfig} {day : String}
    {file : Option LogFile} (h : openConfigured disk config day = .ok (file, left)) :
    file = config.fileOutput.map fileOf := by
  unfold openConfigured at h
  cases hpath : config.fileOutput with
  | none =>
    simp only [hpath] at h
    cases h
    rfl
  | some path =>
    simp only [hpath] at h
    cases hopen : openDaily disk (dailyPath (fileOf path) day) with
    | error fault => simp [hopen, withContext, Except.map] at h
    | ok opened =>
      simp [hopen, withContext, Except.map] at h
      simp [h.1]

theorem ofName?_of_parse {name : String} {level : LogLevel} (h : LogLevel.parse name = .ok level) :
    LogLevel.ofName? name = some level := by
  unfold LogLevel.parse at h
  split at h
  · next found heq =>
    cases h
    exact heq
  · cases h

/-- What an accepted installation without a filter in the environment installs. -/
theorem installs_of_accepted {config : LoggingConfig} {day : String}
    (hfirst : logging.subscriber = none) (haccepted : (logging.init config none day).1 = .ok ()) :
    ∃ level disk, LogLevel.parse config.level = .ok level
      ∧ (logging.init config none day).2
        = log { logging with
            disk
            subscriber := some ⟨LogFilter.ofLevelName config.level, .ofConfig config,
              config.fileOutput.map fileOf⟩ }
          ⟨.info, "Logging initialized with level: " ++ level.name⟩ := by
  cases hprepare : prepare logging.disk config none day with
  | error err => simp [init, hprepare] at haccepted
  | panic message => simp [init, hprepare] at haccepted
  | ok prepared =>
    obtain ⟨level, hlevel, hrest⟩ := Outcome.bind_eq_ok hprepare
    obtain ⟨filter, hfilter, hrest⟩ := Outcome.bind_eq_ok hrest
    obtain ⟨⟨file, disk⟩, hopen, hrest⟩ := Outcome.bind_eq_ok hrest
    cases hfilter
    cases hrest
    refine ⟨level, disk, Outcome.ofExcept_eq_ok hlevel, ?_⟩
    rw [init, hprepare]
    simp only [hfirst, file_of_openConfigured (Outcome.ofExcept_eq_ok hopen)]

theorem atLeast_report (path : RawText) (found : Bool) :
    (report path found).level.atLeast .warn = !found := by
  cases found <;> rfl

/-- **The configured severity is honoured under all of its names but `warning`.** Let logging be
    installed for the first time, without a filter in the environment, and let the search for
    configuration be reported any number of times. Then the configured text names a severity, and
    the line of the installation and the lines of the reports are written in their order, as far as
    they are at least that severe, to the standard output and in the same form to the configured
    file. Under the name `warning` nothing is written at all. So what is written is what the severity
    admits exactly if the name is another one or nothing was reported as missing. -/
theorem written_of_installation (logging : Logging) (config : LoggingConfig) (day : String)
    (reports : List (RawText × Bool)) (hfirst : logging.subscriber = none)
    (haccepted : (logging.init config none day).1 = .ok ()) :
    ∃ level, LogLevel.parse config.level = .ok level ∧
      let after := reports.foldl (fun l r => l.configLoaded r.1 r.2) (logging.init config none day).2
      let happened := ⟨.info, "Logging initialized with level: " ++ level.name⟩
        :: reports.map fun r => report r.1 r.2
      let admitted := happened.filter fun e => e.level.atLeast level
      let seen := if LogLevel.lowered config.level = "warning" then [] else admitted
      let lines := seen.flatMap fun e => e.written (.ofConfig config)
      after.stdout = logging.stdout ++ lines
        ∧ after.fileLines = logging.fileLines ++ (if config.fileOutput.isSome then lines else [])
        ∧ (after.subscriber.bind (·.file)) = config.fileOutput.map fileOf
        ∧ (seen = admitted
          ↔ LogLevel.lowered config.level ≠ "warning" ∨ ∀ r ∈ reports, r.2 = true) := by
  obtain ⟨level, disk, hlevel, hinstalled⟩ := installs_of_accepted hfirst haccepted
  refine ⟨level, hlevel, ?_⟩
  intro after happened admitted seen lines
  let s : Subscriber := ⟨LogFilter.ofLevelName config.level, .ofConfig config,
    config.fileOutput.map fileOf⟩
  have hafter : after = happened.foldl Logging.log { logging with disk, subscriber := some s } := by
    simp only [after, happened, hinstalled, List.foldl_cons, List.foldl_map]
    rfl
  have hstart : Writes logging { logging with disk, subscriber := some s } s [] := by
    refine ⟨rfl, ?_, ?_⟩ <;> simp
  have hpassed : (happened.filter fun e => s.filter.enabled logTarget e.level) = seen := by
    simp only [s, LogFilter.enabled_ofLevelName (ofName?_of_parse hlevel)]
    by_cases hwarning : LogLevel.lowered config.level = "warning"
    · simp [seen, hwarning]
    · simp [seen, hwarning, admitted]
  have hwrites := hstart.logAll happened
  rw [← hafter, hpassed, List.nil_append] at hwrites
  refine ⟨hwrites.stdout, ?_, ?_, ?_⟩
  · simpa [s] using hwrites.fileLines
  · rw [hwrites.subscriber]
    rfl
  · by_cases hwarning : LogLevel.lowered config.level = "warning"
    · obtain rfl : level = .warn := by
        have hname := ofName?_of_parse hlevel
        simpa [LogLevel.ofName?, hwarning] using hname.symm
      have hadmitted : admitted = [] ↔ ∀ r ∈ reports, r.2 = true := by
        rw [List.filter_eq_nil_iff]
        simp only [happened, List.forall_mem_cons, List.forall_mem_map, atLeast_report]
        simp [LogLevel.atLeast, LogLevel.rank]
      simp only [seen, hwarning, if_true, ne_eq, not_true_eq_false, false_or]
      rw [eq_comm, hadmitted]
    · simp [seen, hwarning]

/-- A process with an empty directory. -/
def quiet : Logging := { disk := Disk.scratch [] }

/-- A configuration of the severity of warnings, with a log file in the data form. -/
def warningsUnder (name : String) : LoggingConfig :=
  { level := name, jsonFormat := true, fileOutput := some (.ofText "logs/app.log") }

/-- A missing file is reported under the name `WARN`, and goes unheard under the name `Warning`. -/
theorem written_of_installation_warning :
    (∀ name ∈ ["WARN", "Warning"], (quiet.init (warningsUnder name) none "2000-01-01").1 = .ok ())
      ∧ (((quiet.init (warningsUnder "WARN") none "2000-01-01").2.configLoaded
          (.ofText "a.toml") true).configLoaded (.ofText "b.toml") false).fileLines
        = [.json "WARN" "pubind_infrastructure::logging" "Configuration file not found: b.toml"]
      ∧ (((quiet.init (warningsUnder "Warning") none "2000-01-01").2.configLoaded
          (.ofText "a.toml") true).configLoaded (.ofText "b.toml") false).fileLines = [] := by
  have haccepted : ∀ name ∈ ["WARN", "Warning"],
      (quiet.init (warningsUnder name) none "2000-01-01").1 = .ok () := by
    intro name hname
    simp only [List.mem_cons, List.not_mem_nil, or_false] at hname
    rcases hname with rfl | rfl <;> rfl
  refine ⟨haccepted, ?_, ?_⟩
  · obtain ⟨level, hlevel, -, hfile, -⟩ := written_of_installation quiet (warningsUnder "WARN")
      "2000-01-01" [(.ofText "a.toml", true), (.ofText "b.toml", false)] rfl (haccepted _ (by simp))
    cases hlevel
    exact hfile.trans rfl
  · obtain ⟨level, hlevel, -, hfile, -⟩ := written_of_installation quiet (warningsUnder "Warning")
      "2000-01-01" [(.ofText "a.toml", true), (.ofText "b.toml", false)] rfl (haccepted _ (by simp))
    cases hlevel
    exact hfile.trans rfl

end Logging

end UnitBinding
