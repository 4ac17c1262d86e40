import PipelineOverride.Document.Display
import PipelineOverride.Project.Kinds
import PipelineOverride.Report
import PipelineOverride.Text.Blank

/-!
# Settings

In which shape compiled overrides leave the program, and how much it says. A variable of the
environment decides where it is set; then the settings file; then a default. A value that is not
allowed is noted and replaced by its default.
-/

set_option autoImplicit false

namespace PipelineOverride

/-- The level of a name in upper case. -/
def Level.ofName? : String → Option Level
  | "DEBUG" => some .debug
  | "INFO" => some .info
  | "WARNING" => some .warning
  | "ERROR" => some .error
  | "CRITICAL" => some .critical
  | _ => none

/-- The environment variables that the program looks at. -/
structure Environment where
  builtinOutput : Option String := none
  standardOutput : Option String := none
  logLevel : Option String := none

structure Settings where
  /-- The output mode of built-in tasks, which is never the array mode. -/
  builtinOutput : OutputMode := .object
  /-- The output mode of the tasks of projects. -/
  standardOutput : OutputMode := .array
  logLevel : Level := .info

/-- The output modes of built-in tasks. Their fragments build on each other, so they always leave
merged. -/
def builtinModes : List OutputMode := [.object, .wrapped]

/-- The value that decides a setting: the variable if it is set, else the field of the file. -/
def settingValue (setting : Option String) (fields : Table Document) (name : String) : Document :=
  match setting with
  | some s => .text s
  | none => fields.getD name .null

/-- Reads an output mode. Blanks around the name and its letter case do not matter. -/
def readMode (value : Document) (name : String) (allowed : List OutputMode)
    (default : OutputMode) : List Notice × OutputMode :=
  if value.isNull then ([], default)
  else
    match (OutputMode.ofName? (Text.lower (Text.trim value.display))).filter allowed.contains with
    | some mode => ([], mode)
    | none =>
      ([⟨.warning, .settings, "Invalid value " ++ value.literal ++ " for '" ++ name
        ++ "' (allowed: " ++ ", ".intercalate (allowed.map OutputMode.name) ++ "). Using '"
        ++ default.name ++ "'."⟩], default)

/-- Reads a logging level. Blanks around the name and its letter case do not matter. -/
def readLevel (value : Document) (default : Level) : List Notice × Level :=
  if value.isNull then ([], default)
  else
    match Level.ofName? (Text.upper (Text.trim value.display)) with
    | some level => ([], level)
    | none =>
      ([⟨.warning, .settings, "Invalid log level " ++ value.literal ++ ". Using '"
        ++ default.name ++ "'."⟩], default)

namespace Settings

/-- The fields of a part of the settings file. A void part has none. -/
def part (fields : Table Document) (name : String) : Except Failure (Table Document) :=
  ((fields.getD name .null).orIfVoid (.mapping [])).fields

/-- The output modes of built-in tasks and of the tasks of projects. -/
def outputModes (environment : Environment) (output : Table Document) :
    List Notice × OutputMode × OutputMode :=
  let (builtinNotices, builtinOutput) := readMode
    (settingValue environment.builtinOutput output "builtin_output") "builtin_output"
    builtinModes .object
  let (standardNotices, standardOutput) := readMode
    (settingValue environment.standardOutput output "standard_output") "standard_output"
    OutputMode.all .array
  (builtinNotices ++ standardNotices, builtinOutput, standardOutput)

/-- The settings under an environment and the two parts of a settings file. -/
def ofParts (environment : Environment) (output logging : Table Document) :
    List Notice × Settings :=
  let (modeNotices, builtinOutput, standardOutput) := outputModes environment output
  let (levelNotices, logLevel) :=
    readLevel (settingValue environment.logLevel logging "level") .info
  (modeNotices ++ levelNotices, ⟨builtinOutput, standardOutput, logLevel⟩)

/-- The settings of a settings file. A level that cannot be shown ends the reading, after that of
the output modes. -/
def ofDocument (environment : Environment) (document : Document) : Report Settings := do
  let fields ← Report.ofExcept (document.orIfVoid (.mapping [])).fields
  let output ← Report.ofExcept (part fields "override")
  let logging ← Report.ofExcept (part fields "logging")
  if (settingValue environment.logLevel logging "level").isShown then
    let (notices, settings) := ofParts environment output logging
    ⟨notices, .ok settings⟩
  else ⟨(outputModes environment output).1, .error .badValue⟩

/-- The settings under an environment and the settings file that the program ships, which also
stands in for a missing one. -/
def bundled (environment : Environment) : List Notice × Settings :=
  ofParts environment
    [(.text "builtin_output", .text "object"), (.text "standard_output", .text "array")]
    [(.text "level", .text "INFO")]

/-- Settings given by names. What is not given has its default. -/
def given (fields : Table Document) : Except Failure Settings := do
  let mode := fun (name : String) (default : OutputMode) =>
    match fields.get? name with
    | none => Except.ok default
    | some value =>
      match value.text?.bind OutputMode.ofName? with
      | some mode => Except.ok mode
      | none => Except.error Failure.badValue
  let builtinOutput ← mode "builtin_output" .object
  let standardOutput ← mode "standard_output" .array
  let level := ((fields.getD "log_level" .null).text?.bind Level.ofName?).getD .info
  return ⟨builtinOutput, standardOutput, level⟩

end Settings

/-- The output mode that a request asks for, if it asks for one. -/
def OutputMode.ofRequest : Option String → Except Failure (Option OutputMode)
  | none => .ok none
  | some name =>
    match OutputMode.ofName? name with
    | some mode => .ok (some mode)
    | none => .error .badValue

end PipelineOverride
