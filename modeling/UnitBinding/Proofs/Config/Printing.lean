import UnitBinding.Proofs.Toml.Text
import UnitBinding.Proofs.Toml.Word
import UnitBinding.Toml.Parser

set_option autoImplicit false

/-! # A configuration file is read as it was written

A written configuration is a list of `Line`s, and each line is read for itself: `readExpressions?_line`
says what a line adds to what follows it. A whole file then says what its lines say, unless one of them
cannot be read, which happens to numbers beyond the signed range of sixty-four bits and to nothing else
(`parse?_toToml`). -/

namespace UnitBinding

open Toml

/-! ## Values -/

/-- A value that is written in a file. -/
inductive Written where
  | text (cs : List Char)
  | number (n : Nat)
  | flag (b : Bool)

namespace Written

/-- How the value is written. -/
def render : Written → List Char
  | .text cs => renderText cs
  | .number n => AppConfig.renderNumber n
  | .flag b => AppConfig.renderFlag b

/-- What the value is read as. -/
def read? : Written → Option Value
  | .text cs => some (.str (String.ofList cs))
  | .number n => if n < integerLimit then some (.int n) else none
  | .flag b => some (.bool b)

end Written

namespace Toml

theorem readWord?_line {word : List Char} (h : ∀ c ∈ word, isWordChar c = true)
    (rest : List Char) :
    readWord? (word ++ '\n' :: rest) = (ofWord? word).map fun value => (value, '\n' :: rest) := by
  have htake : (word ++ '\n' :: rest).takeWhile isWordChar = word := by
    rw [List.takeWhile_append_of_pos h, List.takeWhile_cons_of_neg (by decide), List.append_nil]
  have hdrop : (word ++ '\n' :: rest).dropWhile isWordChar = '\n' :: rest := by
    rw [List.dropWhile_append_of_pos h, List.dropWhile_cons_of_neg (by decide)]
  rw [readWord?, htake, hdrop]
  cases ofWord? word <;> rfl

/-- A value that starts like a word is read as a word. -/
theorem readValue?_word {word : List Char} (h : ∀ c ∈ word, isWordChar c = true)
    (hne : word ≠ []) (fuel depth : Nat) (rest : List Char) :
    readValue? (fuel + 1) depth (word ++ '\n' :: rest)
      = (ofWord? word).map fun value => (value, '\n' :: rest) := by
  rw [← readWord?_line h]
  obtain ⟨c, more, rfl⟩ := List.exists_cons_of_ne_nil hne
  have hfirst : ∀ mark, isWordChar mark = false → c ≠ mark := by
    rintro mark hmark rfl
    rw [h c List.mem_cons_self] at hmark
    cases hmark
  rw [List.cons_append, readValue?]
  -- no mark that opens another kind of value can stand in a word
  all_goals
    intro tail heq
    exact hfirst _ (by decide) (List.cons.inj heq).1

theorem head_renderText (cs : List Char) :
    ∃ more, renderText cs = '"' :: more ∨ renderText cs = '\'' :: more := by
  rw [renderText]
  cases styleOf cs with
  | basic => exact ⟨_, Or.inl rfl⟩
  | literal => exact ⟨_, Or.inr rfl⟩
  | tripledBasic => exact ⟨_, Or.inl rfl⟩
  | tripledLiteral => exact ⟨_, Or.inr rfl⟩

theorem readValue?_quoted {cs : List Char} (h : ∃ more, cs = '"' :: more ∨ cs = '\'' :: more)
    (fuel depth : Nat) :
    readValue? (fuel + 1) depth cs = (readString? cs).map fun r => (.str (String.ofList r.1), r.2) := by
  obtain ⟨more, rfl | rfl⟩ := h <;> simp only [readValue?]

/-- **A written value is read** as what it says, up to the end of its line. -/
theorem readValue?_render (value : Written) (fuel depth : Nat) (rest : List Char) :
    readValue? (fuel + 1) depth (value.render ++ '\n' :: rest)
      = value.read?.map fun read => (read, '\n' :: rest) := by
  cases value with
  | text cs =>
    obtain ⟨more, hmore⟩ := head_renderText cs
    have hopen : ∃ more, renderText cs ++ '\n' :: rest = '"' :: more
        ∨ renderText cs ++ '\n' :: rest = '\'' :: more := by
      rcases hmore with heq | heq
      · exact ⟨more ++ '\n' :: rest, Or.inl (by rw [heq]; rfl)⟩
      · exact ⟨more ++ '\n' :: rest, Or.inr (by rw [heq]; rfl)⟩
    rw [Written.render, readValue?_quoted hopen, readString?_renderText]
    rfl
  | number n =>
    have hword : ∀ c ∈ AppConfig.renderNumber n, isWordChar c = true := by
      intro c hc
      simp [isWordChar, Char.isAlphanum, isDigit_of_mem_renderNumber hc]
    rw [Written.render, readValue?_word hword Nat.toDigits_ne_nil, ofWord?_renderNumber]
    rfl
  | flag b => cases b <;> rfl

end Toml

/-! ## Lines -/

/-- A line of a written file. -/
inductive Line where
  | blank
  | header (name : String)
  | setting (key : String) (value : Written)

namespace Line

/-- The text of a line. -/
def text : Line → List Char
  | .blank => ['\n']
  | .header name => AppConfig.sectionLine name
  | .setting key value => AppConfig.settingLine key value.render

/-- The expressions that a line is read as. -/
def read? : Line → Option (List Expression)
  | .blank => some []
  | .header name => some [.header [] name]
  | .setting key value => value.read?.map fun read => [.assign [] key read]

/-- The name in a line can be written without quotes. -/
def isBare : Line → Bool
  | .blank => true
  | .header name | .setting name _ => name ≠ "" && name.toList.all isBareChar

theorem bare_of_isBare {name : String} (h : (name ≠ "" && name.toList.all isBareChar) = true) :
    name.toList ≠ [] ∧ ∀ c ∈ name.toList, isBareChar c = true := by
  simpa using h

end Line

namespace Toml

/-- What can stand in a bare name is none of the marks between names. -/
theorem ne_of_isBareChar {c : Char} (h : isBareChar c = true) (mark : Char)
    (hmark : isBareChar mark = false) :
    c ≠ mark := by
  rintro rfl
  rw [h] at hmark
  cases hmark

theorem not_isBlank_of_isBareChar {c : Char} (h : isBareChar c = true) : isBlank c = false := by
  simp [isBlank, ne_of_isBareChar h ' ' (by decide), ne_of_isBareChar h '\t' (by decide)]

theorem skipBlanks_cons {c : Char} (h : isBlank c = false) (rest : List Char) :
    skipBlanks (c :: rest) = c :: rest :=
  List.dropWhile_cons_of_neg (by simp [h])

theorem readKeyPart?_bare {name : List Char} (hne : name ≠ [])
    (hbare : ∀ c ∈ name, isBareChar c = true) {c : Char} (hend : isBareChar c = false)
    (rest : List Char) :
    readKeyPart? (name ++ c :: rest) = some (String.ofList name, c :: rest) := by
  have htake : (name ++ c :: rest).takeWhile isBareChar = name := by
    rw [List.takeWhile_append_of_pos hbare, List.takeWhile_cons_of_neg (by simp [hend]),
      List.append_nil]
  have hdrop : (name ++ c :: rest).dropWhile isBareChar = c :: rest := by
    rw [List.dropWhile_append_of_pos hbare, List.dropWhile_cons_of_neg (by simp [hend])]
  rw [readKeyPart?, htake, hdrop]
  split
  · exact absurd rfl hne
  · rfl

/-- A bare name is a path by itself, up to a mark other than the point. -/
theorem readPath?_bare {name : List Char} (hne : name ≠ [])
    (hbare : ∀ c ∈ name, isBareChar c = true) {c : Char} (hend : isBareChar c = false)
    {rest behind : List Char} (hbehind : skipBlanks (c :: rest) = behind)
    (hpoint : behind.head? ≠ some '.') :
    readPath? (name ++ c :: rest) = some (([], String.ofList name), behind) := by
  have hstart : skipBlanks (name ++ c :: rest) = name ++ c :: rest := by
    obtain ⟨d, more, rfl⟩ := List.exists_cons_of_ne_nil hne
    exact skipBlanks_cons (not_isBlank_of_isBareChar (hbare d List.mem_cons_self)) _
  have hkey : readKey? (nestingLimit - 1) (name ++ c :: rest)
      = some ([String.ofList name], behind) := by
    show readKey? (78 + 1) _ = _
    rw [readKey?, hstart, readKeyPart?_bare hne hbare hend]
    dsimp only
    rw [hbehind]
    split
    · exact absurd rfl hpoint
    · rfl
  rw [readPath?, hkey]
  rfl

/-- What an expression of one line adds to the expressions that follow. -/
theorem readExpressions?_step {cs : List Char} {fuel : Nat} (hblank : skipBlanks cs = cs)
    (hend : endLine? cs = none) (hne : cs ≠ []) :
    readExpressions? (fuel + 1) cs
      = (readExpression? (fuel + 1) cs).bind fun r => (endLine? r.2).bind fun rest =>
        (readExpressions? fuel rest).map (r.1 :: ·) := by
  rw [readExpressions?, hblank]
  split
  · exact absurd rfl hne
  · rw [hend]
    cases readExpression? (fuel + 1) cs with
    | none => rfl
    | some r =>
      simp only [Option.bind_some]
      cases endLine? r.2 <;> rfl

/-- No line ends in front of a name or a bracket. -/
theorem endLine?_of_start {c : Char} (h : isBareChar c = true ∨ c = '[') (rest : List Char) :
    skipBlanks (c :: rest) = c :: rest ∧ endLine? (c :: rest) = none := by
  have hne : ∀ mark, isBareChar mark = false → mark ≠ '[' → c ≠ mark := by
    rintro mark hmark hopen rfl
    rcases h with h | h
    · exact ne_of_isBareChar h _ hmark rfl
    · exact hopen h
  have hblank : isBlank c = false := by
    simp [isBlank, hne ' ' (by decide) (by decide), hne '\t' (by decide) (by decide)]
  refine ⟨skipBlanks_cons hblank rest, ?_⟩
  rw [endLine?, skipBlanks_cons hblank]
  split
  · rename_i heq
    exact absurd (List.cons.inj heq).1 (hne '#' (by decide) (by decide))
  · rw [if_neg (List.cons_ne_nil _ _)]
    exact newline?_cons_of_ne (hne '\n' (by decide) (by decide))
      (hne '\r' (by decide) (by decide)) rest

/-- A value starts right behind the blank in front of it. -/
theorem skipBlanks_render (value : Written) (rest : List Char) :
    skipBlanks (' ' :: (value.render ++ rest)) = value.render ++ rest := by
  have hstart : ∃ c more, value.render = c :: more ∧ isBlank c = false := by
    cases value with
    | text cs =>
      obtain ⟨more, heq | heq⟩ := head_renderText cs
      · exact ⟨'"', more, heq, by decide⟩
      · exact ⟨'\'', more, heq, by decide⟩
    | number n =>
      obtain ⟨c, more, heq⟩ := List.exists_cons_of_ne_nil (Nat.toDigits_ne_nil (n := n) (b := 10))
      have hdigit : c.isDigit = true :=
        Nat.isDigit_of_mem_toDigits (by decide) (by decide) (heq.symm ▸ List.mem_cons_self)
      refine ⟨c, more, heq, not_isBlank_of_isBareChar ?_⟩
      simp [isBareChar, Char.isAlphanum, hdigit]
    | flag b => cases b <;> exact ⟨_, _, rfl, by decide⟩
  obtain ⟨c, more, heq, hblank⟩ := hstart
  rw [heq, List.cons_append]
  exact (List.dropWhile_cons_of_pos (by decide)).trans (skipBlanks_cons hblank _)

theorem readExpression?_header {name : List Char} (hne : name ≠ [])
    (hbare : ∀ c ∈ name, isBareChar c = true) (fuel : Nat) (rest : List Char) :
    readExpression? fuel ('[' :: (name ++ ']' :: rest))
      = some (.header [] (String.ofList name), rest) := by
  have hpath := readPath?_bare hne hbare (by decide : isBareChar ']' = false)
    (skipBlanks_cons (by decide) rest) (by simp)
  obtain ⟨d, more, rfl⟩ := List.exists_cons_of_ne_nil hne
  rw [readExpression?]
  · simp only [hpath]
  · intro tail heq
    exact ne_of_isBareChar (hbare d List.mem_cons_self) '[' (by decide) (List.cons.inj heq).1

theorem readExpression?_setting {key : List Char} (hne : key ≠ [])
    (hbare : ∀ c ∈ key, isBareChar c = true) (fuel : Nat) (value : Written) (rest : List Char) :
    readExpression? (fuel + 1) (key ++ ' ' :: '=' :: ' ' :: (value.render ++ '\n' :: rest))
      = value.read?.map fun read => (.assign [] (String.ofList key) read, '\n' :: rest) := by
  have hpath := readPath?_bare hne hbare (by decide : isBareChar ' ' = false)
    (show skipBlanks (' ' :: '=' :: ' ' :: (value.render ++ '\n' :: rest))
      = '=' :: ' ' :: (value.render ++ '\n' :: rest) from rfl) (by simp)
  obtain ⟨d, more, rfl⟩ := List.exists_cons_of_ne_nil hne
  have hopen : d ≠ '[' := ne_of_isBareChar (hbare d List.mem_cons_self) '[' (by decide)
  rw [List.cons_append] at hpath ⊢
  rw [readExpression?]
  · simp only [hpath, skipBlanks_render, readValue?_render, Option.map_map]
    rfl
  · intro tail heq
    exact hopen (List.cons.inj heq).1
  · intro tail heq
    exact hopen (List.cons.inj heq).1

theorem endLine?_feed (rest : List Char) : endLine? ('\n' :: rest) = some rest := by
  rw [endLine?, skipBlanks_cons (by decide)]
  rfl

/-- **One line** adds its own expressions to those of the lines behind it. -/
theorem readExpressions?_line {line : Line} (h : line.isBare = true) (fuel : Nat)
    (rest : List Char) :
    readExpressions? (fuel + 1) (line.text ++ rest)
      = line.read?.bind fun said => (readExpressions? fuel rest).map (said ++ ·) := by
  cases line with
  | blank =>
    show readExpressions? fuel rest = _
    simp [Line.read?]
  | header name =>
    obtain ⟨hne, hbare⟩ := Line.bare_of_isBare h
    have hline : (Line.header name).text ++ rest = '[' :: (name.toList ++ ']' :: '\n' :: rest) := by
      simp [Line.text, AppConfig.sectionLine]
    obtain ⟨hblank, hend⟩ := endLine?_of_start (Or.inr rfl) (name.toList ++ ']' :: '\n' :: rest)
    rw [hline, readExpressions?_step hblank hend (List.cons_ne_nil _ _),
      readExpression?_header hne hbare, Option.bind_some, endLine?_feed, String.ofList_toList]
    rfl
  | setting key value =>
    obtain ⟨hne, hbare⟩ := Line.bare_of_isBare h
    have hline : (Line.setting key value).text ++ rest
        = key.toList ++ ' ' :: '=' :: ' ' :: (value.render ++ '\n' :: rest) := by
      simp [Line.text, AppConfig.settingLine]
    obtain ⟨c, more, hstart⟩ := List.exists_cons_of_ne_nil hne
    obtain ⟨hblank, hend⟩ := endLine?_of_start
      (Or.inl (hbare c (hstart.symm ▸ List.mem_cons_self)))
      (more ++ ' ' :: '=' :: ' ' :: (value.render ++ '\n' :: rest))
    rw [← List.cons_append, ← hstart] at hblank hend
    rw [hline, readExpressions?_step hblank hend (by simp [hstart]),
      readExpression?_setting hne hbare, String.ofList_toList, Line.read?]
    cases value.read? with
    | none => rfl
    | some read =>
      simp only [Option.map_some, Option.bind_some, endLine?_feed]
      rfl

/-! ## Files -/

/-- What the lines of a file are read as, if each of them can be read. -/
def readLines? : List Line → Option (List Expression)
  | [] => some []
  | line :: rest => line.read?.bind fun said => (readLines? rest).map (said ++ ·)

/-- **All lines** are read one after the other. -/
theorem readExpressions?_lines {lines : List Line} (h : ∀ line ∈ lines, line.isBare = true)
    {fuel : Nat} (hfuel : lines.length < fuel) :
    readExpressions? fuel (lines.flatMap Line.text) = readLines? lines := by
  induction lines generalizing fuel with
  | nil =>
    obtain ⟨more, rfl⟩ := Nat.exists_eq_succ_of_ne_zero (Nat.ne_of_gt hfuel)
    rfl
  | cons line rest ih =>
    obtain ⟨more, rfl⟩ := Nat.exists_eq_succ_of_ne_zero (Nat.ne_of_gt (Nat.lt_of_le_of_lt
      (Nat.zero_le _) hfuel))
    rw [List.flatMap_cons, readExpressions?_line (h line List.mem_cons_self), readLines?,
      ih (fun other hother => h other (List.mem_cons_of_mem _ hother)) (Nat.lt_of_succ_lt_succ hfuel)]

theorem length_le_flatMap_text (lines : List Line) :
    lines.length ≤ (lines.flatMap Line.text).length := by
  induction lines with
  | nil => exact Nat.le_refl 0
  | cons line rest ih =>
    have hline : 1 ≤ line.text.length := by
      cases line with
      | blank => exact Nat.le_refl 1
      | header name => simp [Line.text, AppConfig.sectionLine]
      | setting key value =>
        simp only [Line.text, AppConfig.settingLine, List.length_append, List.length_singleton]
        omega
    rw [List.flatMap_cons, List.length_append, List.length_cons]
    omega

/-- One line that cannot be read is enough. -/
theorem readLines?_eq_none {lines : List Line} {line : Line} (hline : line ∈ lines)
    (hnone : line.read? = none) : readLines? lines = none := by
  induction lines with
  | nil => cases hline
  | cons first rest ih =>
    rw [readLines?]
    rcases List.mem_cons.1 hline with rfl | hrest
    · rw [hnone, Option.bind_none]
    · rw [ih hrest]
      cases first.read? <;> rfl

/-- A file without a byte-order mark says what its lines say. -/
theorem parse?_of_lines {text : String} {lines : List Line}
    (htext : text.toList = lines.flatMap Line.text) (h : ∀ line ∈ lines, line.isBare = true)
    (hmark : text.toList.head? ≠ some '\ufeff') :
    parse? text = (readLines? lines).bind ofExpressions? := by
  have hwhole : parse? text
      = (readExpressions? (text.toList.length + 1) text.toList).bind ofExpressions? := by
    rw [parse?]
    split
    · rename_i heq
      rw [heq] at hmark
      exact absurd rfl hmark
    · rfl
  rw [hwhole, htext,
    readExpressions?_lines h (Nat.lt_succ_of_le (length_le_flatMap_text lines))]

end Toml

/-! ## Configurations -/

namespace AppConfig

/-- The lines of a configuration, with the path of the log file as a text. -/
def lines (c : AppConfig) (output : Option String) : List Line :=
  [.header "logging", .setting "level" (.text c.logging.level.toList),
      .setting "json_format" (.flag c.logging.jsonFormat)]
    ++ (output.toList.map fun path => .setting "file_output" (.text path.toList))
    ++ [.setting "max_files" (.number c.logging.maxFiles), .blank,
      .header "accessor_cache", .setting "max_capacity" (.number c.accessorCache.maxCapacity),
      .setting "time_to_idle_secs" (.number c.accessorCache.timeToIdleSecs),
      .setting "install_global" (.flag c.accessorCache.installGlobal), .blank,
      .header "discovery", .setting "include_linked" (.flag c.discovery.includeLinked)]

/-- The text of a file, with the path of the log file as a text. -/
def fileText (c : AppConfig) (output : Option String) : String :=
  String.ofList ((c.lines output).flatMap Line.text)

/-- A configuration whose path is a text is written … -/
theorem toToml_eq {c : AppConfig} {output : Option String}
    (h : c.logging.fileOutput = output.map RawText.ofText) : c.toToml = .ok (c.fileText output) := by
  rw [toToml, LoggingConfig.outputText_eq_ok_iff.2 h]
  refine congrArg (fun text => Except.ok (String.ofList text)) ?_
  cases output <;>
    simp [lines, Line.text, Written.render, loggingLines, accessorCacheLines, discoveryLines]

/-- … and another one is not. -/
theorem toToml_of_not_text {c : AppConfig} (h : ¬ c.logging.OutputIsText) :
    c.toToml = .error pathNoText := by
  rw [toToml, LoggingConfig.outputText_of_not_text h]
  rfl

theorem isBare_lines (c : AppConfig) (output : Option String) :
    ∀ line ∈ c.lines output, line.isBare = true := by
  rw [← List.all_eq_true]
  cases output <;> rfl

/-- The members of the root table of a written file. -/
def tomlMembers (c : AppConfig) (output : Option String) : List (String × Toml.Value) :=
  [("logging", .table ([("level", .str c.logging.level), ("json_format", .bool c.logging.jsonFormat)]
      ++ (output.toList.map fun path => ("file_output", .str path))
      ++ [("max_files", .int c.logging.maxFiles)])),
    ("accessor_cache", .table [("max_capacity", .int c.accessorCache.maxCapacity),
      ("time_to_idle_secs", .int c.accessorCache.timeToIdleSecs),
      ("install_global", .bool c.accessorCache.installGlobal)]),
    ("discovery", .table [("include_linked", .bool c.discovery.includeLinked)])]

/-- Every number can be read back. -/
structure InRange (c : AppConfig) : Prop where
  maxFiles : c.logging.maxFiles < integerLimit
  maxCapacity : c.accessorCache.maxCapacity < integerLimit
  timeToIdleSecs : c.accessorCache.timeToIdleSecs < integerLimit

theorem parse?_fileText_eq (c : AppConfig) (output : Option String) :
    Toml.parse? (c.fileText output) = (readLines? (c.lines output)).bind ofExpressions? := by
  refine parse?_of_lines String.toList_ofList (c.isBare_lines output) ?_
  have hstart : (c.fileText output).toList.head? = some '[' := by
    rw [fileText, String.toList_ofList]
    rfl
  rw [hstart]
  decide

/-- **A written file is read** as the configuration says, if every number can be read back. -/
theorem parse?_fileText {c : AppConfig} (h : c.InRange) (output : Option String) :
    Toml.parse? (c.fileText output) = some (c.tomlMembers output) := by
  rw [parse?_fileText_eq, tomlMembers]
  cases output <;>
    simp only [lines, readLines?, Line.read?, Written.read?, if_pos h.maxFiles,
      if_pos h.maxCapacity, if_pos h.timeToIdleSecs, Option.toList_none, Option.toList_some,
      List.map_nil, List.map_cons, List.cons_append, List.nil_append, Option.map_some,
      Option.bind_some, String.ofList_toList]
  · rfl
  · rfl

theorem read?_number_eq_none {n : Nat} (h : ¬ n < integerLimit) (key : String) :
    (Line.setting key (.number n)).read? = none := by
  rw [Line.read?, Written.read?, if_neg h, Option.map_none]

/-- A written file cannot be read if one of the numbers cannot. -/
theorem parse?_fileText_of_not_inRange {c : AppConfig} (h : ¬ c.InRange) (output : Option String) :
    Toml.parse? (c.fileText output) = none := by
  have hnone : readLines? (c.lines output) = none := by
    by_cases hfiles : c.logging.maxFiles < integerLimit
    · by_cases hcapacity : c.accessorCache.maxCapacity < integerLimit
      · have hidle : ¬ c.accessorCache.timeToIdleSecs < integerLimit :=
          fun hidle => h ⟨hfiles, hcapacity, hidle⟩
        exact readLines?_eq_none (by simp [lines]) (read?_number_eq_none hidle "time_to_idle_secs")
      · exact readLines?_eq_none (by simp [lines]) (read?_number_eq_none hcapacity "max_capacity")
    · exact readLines?_eq_none (by simp [lines]) (read?_number_eq_none hfiles "max_files")
  rw [parse?_fileText_eq, hnone, Option.bind_none]

end AppConfig

end UnitBinding
