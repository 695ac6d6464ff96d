import UnitBinding.Config.Basic
import UnitBinding.ErrorContext
import UnitBinding.Logging.Filter
import UnitBinding.Storage.Disk
import UnitBinding.Text.Quoted

set_option autoImplicit false

/-! # Logging

Logging is installed once for the process. From then on events go to the standard output and, if the
configuration names a file, to a file of the day beside it; a filter from the environment takes
precedence over the configured level. `Logging.init` installs, `Logging.configLoaded` reports where
configuration was looked for. -/

namespace UnitBinding

/-! ## Events -/

/-- The target of all events of this library that are logged. -/
def logTarget : String := "pubind_infrastructure::logging"

/-- A logged event. -/
structure LogEvent where
  level : LogLevel
  message : String
  deriving DecidableEq, Inhabited

/-! ### Plain form -/

/-- A character in a plain line. The controls that could steer a terminal are written by number. -/
def tamed (c : Char) : List Char :=
  if ['\x07', '\x08', '\x0c', '\x1b', '\x7f'].contains c then
    ['\\', 'x', Text.hexDigit (c.toNat / 16), Text.hexDigit (c.toNat % 16)]
  else if 0x80 ≤ c.toNat && c.toNat ≤ 0x9f then
    ['\\', 'u', '\x7b'] ++ Text.hexDigits c.toNat ++ ['\x7d']
  else [c]

/-- A character above the controls is written as itself. -/
theorem tamed_visible (c : Char) (h₁ : 0x20 ≤ c.toNat) (h₂ : c.toNat < 0x7f) : tamed c = [c] := by
  have h : ['\x07', '\x08', '\x0c', '\x1b', '\x7f'].contains c = false := by
    simp only [List.contains_eq_mem, decide_eq_false_iff_not, List.mem_cons, List.not_mem_nil,
      or_false]
    rintro (rfl | rfl | rfl | rfl | rfl) <;> revert h₁ h₂ <;> decide
  rw [tamed, h, if_neg (by simp), if_neg (by simp; omega)]

/-- The plain form of an event, its time aside. -/
def LogEvent.plain (e : LogEvent) : String :=
  e.level.name ++ " " ++ logTarget ++ ": " ++ String.ofList (e.message.toList.flatMap tamed)

/-- A line without the carriage return that belongs to its end. -/
def withoutReturn (line : String) : String :=
  if line.toList.getLast? = some '\r' then String.ofList line.toList.dropLast else line

/-- The lines that the plain form of an event takes: a message may hold line ends. -/
def LogEvent.lines (e : LogEvent) : List String := (e.plain.splitOn "\n").map withoutReturn

/-! ### Written form -/

/-- The form in which events are written. -/
inductive LogForm where
  | plain
  | json
  deriving DecidableEq, Inhabited

/-- The form that a configuration asks for. -/
def LogForm.ofConfig (config : LoggingConfig) : LogForm :=
  if config.jsonFormat then .json else .plain

/-- A line of the log, its time and its thread aside. -/
inductive LogLine where
  | plain (text : String)
  | json (level target message : String)
  deriving DecidableEq, Inhabited

/-- What is written for an event. -/
def LogEvent.written (e : LogEvent) : LogForm → List LogLine
  | .plain => e.lines.map .plain
  | .json => [.json e.level.name logTarget e.message]

/-! ## The installed logging -/

/-- A log file. -/
structure LogFile where
  /-- The directory that the configured path lies in, if it lies in one. -/
  beside : Option RawText
  /-- The name without the day. -/
  stem : String
  deriving DecidableEq, Inhabited

/-- The directory of a log file: the current one if the configured path lies in none. -/
def LogFile.directory (file : LogFile) : RawText := file.beside.getD Path.here

/-- The installed logging. -/
structure Subscriber where
  filter : LogFilter
  form : LogForm
  file : Option LogFile
  deriving DecidableEq, Inhabited

/-- Logging of one process. -/
structure Logging where
  disk : Disk
  subscriber : Option Subscriber := none
  /-- The standard output. -/
  stdout : List LogLine := []
  /-- What was written to the log file. -/
  fileLines : List LogLine := []
  deriving Inhabited

namespace Logging

/-- The variable that holds a filter. -/
def filterVariable : String := "PUBIND_LOG"

/-- The stem of a log file whose path names none. -/
def defaultStem : String := "pubind"

/-- Write an event to the standard output, and to the log file if there is one. -/
def write (logging : Logging) (s : Subscriber) (e : LogEvent) : Logging :=
  let lines := e.written s.form
  { logging with
    stdout := logging.stdout ++ lines
    fileLines := if s.file.isSome then logging.fileLines ++ lines else logging.fileLines }

/-- Log an event: it is written if logging is installed and the filter lets it pass. -/
def log (logging : Logging) (e : LogEvent) : Logging :=
  match logging.subscriber with
  | none => logging
  | some s => if s.filter.enabled logTarget e.level then logging.write s e else logging

/-! ## Log files -/

/-- The log file of a configured path. -/
def fileOf (path : RawText) : LogFile :=
  { beside := Path.parent? path
    stem := ((Path.fileStem? path).map RawText.display).getD defaultStem }

/-- The path of a log file on a day. -/
def dailyPath (file : LogFile) (day : String) : RawText :=
  Path.join file.directory (.ofText (file.stem ++ "." ++ day))

/-- A fault with the step that met it. -/
def stepFailure (step : String) (fault : IoFault) : Failure :=
  .foreign (step ++ ": " ++ fault.message) (.foreign fault.message .none)

/-- Open a log file. If that fails the directory is made, and a second attempt counts. -/
def openDaily (disk : Disk) (path : RawText) : Except Failure Disk :=
  match disk.openFile path with
  | .ok disk => .ok disk
  | .error _ =>
    match disk.ensureDirectory ((Path.parent? path).getD ⟨[]⟩) with
    | .error fault => .error (stepFailure "failed to create log directory" fault)
    | .ok disk =>
      match disk.openFile path with
      | .ok disk => .ok disk
      | .error fault => .error (stepFailure "failed to create log file" fault)

/-- Open the log file that a configuration asks for, if any. -/
def openConfigured (disk : Disk) (config : LoggingConfig) (day : String) :
    Except Error (Option LogFile × Disk) :=
  match config.fileOutput with
  | none => .ok (none, disk)
  | some path =>
    let file := fileOf path
    withContext .environment ("Failed to open log directory " ++ file.directory.display)
      ((openDaily disk (dailyPath file day)).map fun disk => (some file, disk))

/-! ## Installation -/

/-- The filter of a configuration. One in the environment counts if it has the form of a filter; it may
    also end the program. -/
def filterOf (config : LoggingConfig) (filterText : Option String) : Outcome LogFilter :=
  match filterText.map LogFilter.parse with
  | some (.ok filter) => .ok filter
  | some (.error (.cut fault)) => .panic fault.message
  | some (.error .malformed) => .ok (LogFilter.ofLevelName config.level)
  | none => .ok (LogFilter.ofLevelName config.level)

/-- The text of the failure of a second installation. -/
def alreadyInstalledText : String := "a global default trace dispatcher has already been set"

/-- The error of a second installation. -/
def alreadyInstalled : Error :=
  (Failure.foreign alreadyInstalledText .none).inContext .other
    "Failed to install the global tracing subscriber"

/-- What an installation needs: the least severity in the configuration, the filter, and the log file,
    which is opened last. -/
def prepare (disk : Disk) (config : LoggingConfig) (filterText : Option String) (day : String) :
    Outcome (LogLevel × LogFilter × Option LogFile × Disk) := do
  let level ← Outcome.ofExcept (LogLevel.parse config.level)
  let filter ← filterOf config filterText
  let (file, disk) ← Outcome.ofExcept (openConfigured disk config day)
  return (level, filter, file, disk)

/-- Install logging. An earlier installation matters only once all is prepared. -/
def init (logging : Logging) (config : LoggingConfig) (filterText : Option String)
    (day : String) : Outcome Unit × Logging :=
  match prepare logging.disk config filterText day with
  | .error err => (.error err, logging)
  | .panic message => (.panic message, logging)
  | .ok (level, filter, file, disk) =>
    match logging.subscriber with
    | some _ => (.error alreadyInstalled, { logging with disk })
    | none =>
      let s : Subscriber := ⟨filter, .ofConfig config, file⟩
      (.ok (), log { logging with disk, subscriber := some s }
        ⟨.info, "Logging initialized with level: " ++ level.name⟩)

/-- The event that reports where configuration was looked for, and whether it was there. -/
def report (path : RawText) (found : Bool) : LogEvent :=
  if found then ⟨.info, "Configuration loaded from " ++ path.display⟩
  else ⟨.warn, "Configuration file not found: " ++ path.display⟩

/-- Report where configuration was looked for. -/
def configLoaded (logging : Logging) (path : RawText) (found : Bool) : Logging :=
  logging.log (report path found)

/-- The log file, if it lies beside the configured path. -/
def fileBeside? (logging : Logging) : Option LogFile :=
  (logging.subscriber.bind (·.file)).filter fun file => file.beside.isSome

/-- The lines in the log file beside the configured path. -/
def linesBeside (logging : Logging) : List LogLine :=
  if logging.fileBeside?.isSome then logging.fileLines else []

/-- The stems of the log files beside the configured path, without the day. -/
def fileStems (logging : Logging) : List String := (logging.fileBeside?.map (·.stem)).toList

end Logging

end UnitBinding
