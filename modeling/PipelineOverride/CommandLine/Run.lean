import PipelineOverride.CommandLine.Arguments
import PipelineOverride.Files.ProjectFile
import PipelineOverride.Session.Cache

/-!
# Running commands

What a call of the program prints, what it says besides, and its exit code. The settings decide how
much is said, unless the call does; then they are loaded only by a command that needs them. What a
project file makes impossible ends a call with an error line and the code one.
-/

set_option autoImplicit false

namespace PipelineOverride

/-- What a command prints before anything can fail, and how it goes on: the rest of what it prints
and its exit code. -/
structure CommandRun where
  printed : String
  rest : Report (String × Nat)

/-- What a call leaves behind. -/
inductive CallResult where
  /-- The call ran no command. -/
  | stopped (stop : Stop)
  /-- The command ended with a code. The messages are those of the error stream. -/
  | ended (code : Nat) (printed : String) (messages : List String)
  /-- The command broke off. -/
  | failed (failure : Failure)

/-- The rank from which notices are shown, by the name of a level in upper case. -/
def thresholdOf? : String → Option Nat
  | "NOTSET" => some 0
  | "WARN" => some Level.warning.rank
  | "FATAL" => some Level.critical.rank
  | name => (Level.ofName? name).map Level.rank

def Notice.line (notice : Notice) : String :=
  notice.level.name ++ " " ++ notice.topic.name ++ ": " ++ notice.text

def linesText (lines : List String) : String :=
  String.join (lines.map (· ++ "\n"))

def readSelectionsFile (tree : FileTree) (path : FilePath) : Except Failure (Table Document) :=
  match tree.look path with
  | .missing => .error (.file (.selectionsMissing path.text))
  | .directory => .error (.file (.badSelections path.text))
  | .file content =>
    match (fileText? content).bind (Json.read? Json.commented) with
    | none => .error (.file (.badSelections path.text))
    | some (.mapping fields) => .ok fields
    | some other => .error (.file (.selectionsNotMapping path.text other.kindName))

/-- The selected task of a selections file. The file holds a selected task, whose name is the given
one unless it says otherwise, or option values alone. -/
def selectedOfFields (fields : Table Document) (task : String) : Report SelectedTask :=
  if (fields.get? "option_values").isSome || (fields.get? "optionValues").isSome then
    let named :=
      if (fields.get? "task_name").isSome then fields
      else Table.insert fields (.text "task_name") (.text task)
    SelectedTask.ofDocument (.mapping named)
  else do
    let values ← SelectionStore.ofDocument (.mapping fields)
    return { taskName := task, values := values }

def readSelected (tree : FileTree) (selections : Option String) (task : String) :
    Report SelectedTask :=
  match selections with
  | none => .done { taskName := task }
  | some s => do
    let fields ← Report.ofExcept (readSelectionsFile tree (.ofText s))
    selectedOfFields fields task

def readGivenProject (tree : FileTree) : Option String → Report (Option Project)
  | none => .done none
  | some s => some <$> loadProject tree (.ofText s)

namespace Command

def files : Command → List FilePath
  | .compile project _ selections _ _ => (project.toList ++ selections.toList).map FilePath.ofText
  | .validate project => [.ofText project]
  | .list project => project.toList.map FilePath.ofText

/-- The options of a project with their kinds, a line for each. -/
def optionLines (options : Registry) : List String :=
  options.map fun entry =>
    "  " ++ entry.1.display ++ " (" ++ entry.2.kind.name ++ ")"

/-- The names of tasks, a line for each. -/
def taskLines (tasks : List Task) : List String :=
  tasks.map fun task => "  " ++ task.name

def runCompile (environment : Environment) (cache : Cache) (tree : FileTree)
    (project : Option String) (task : String) (selections : Option String)
    (mode : Option OutputMode) (pretty : Bool) : Report (String × Nat) := do
  let project ← readGivenProject tree project
  let selected ← readSelected tree selections task
  let (notices, compiler, _) := cache.compiler environment project none none
  ⟨notices, .ok ()⟩
  let document ← compiler.compile selected mode
  match if pretty then Json.indented? document else Json.compact? document with
  | some s => return (s ++ "\n", 0)
  | none => Report.fail .wrongKind

def runValidate (tree : FileTree) (project : String) : Report (String × Nat) := do
  let findings ← validateProjectFile tree (.ofText project)
  let lines := findings.warnings.map (fun issue => "WARNING: " ++ issue.text)
    ++ findings.errors.map (fun issue => "ERROR: " ++ issue.text)
  if findings.valid then return (linesText (lines ++ ["Project interface valid"]), 0)
  else
    let count := Decimal.natText findings.errors.length ++ " error(s) found"
    return (linesText (lines ++ ["", count]), 1)

/-- Lists the tasks and options of a project file, if one is given. -/
def runList (tree : FileTree) : Option String → Report (String × Nat)
  | none => .done ("", 0)
  | some s => do
    let path := FilePath.ofText s
    let project ← loadProject tree path
    let title := (project.name.orIfVoid (.text path.text)).display
    return (linesText (["", "Project tasks (" ++ title ++ "):"] ++ taskLines project.tasks
      ++ ["", "Options:"] ++ optionLines project.options), 0)

/-- Runs a command with what is loaded already. -/
def run (environment : Environment) (cache : Cache) (tree : FileTree) : Command → CommandRun
  | .compile project task selections mode pretty =>
    ⟨"", runCompile environment cache tree project task selections mode pretty⟩
  | .validate project => ⟨"", runValidate tree project⟩
  | .list project =>
    let (notices, catalog, _) := cache.readCatalog
    let rest := runList tree project
    ⟨linesText ("Built-in tasks:" :: taskLines catalog.tasks),
      ⟨notices ++ rest.notices, rest.outcome⟩⟩

end Command

/-- The end of a run, where notices are shown from a rank on. -/
def CommandRun.finish (run : CommandRun) (threshold : Nat) : CallResult :=
  let shown := run.rest.notices.filter fun notice => threshold ≤ notice.level.rank
  let messages := shown.map Notice.line
  match run.rest.outcome with
  | .ok (text, code) => .ended code (run.printed ++ text) messages
  | .error failure =>
    if failure.isOfProject then
      .ended 1 run.printed (messages ++ ["ERROR: " ++ failure.message?.getD ""])
    else .failed failure

/-- The name of the level from which a call shows notices, and what is loaded to know it. Notices
of that load come too early to be shown. -/
def Call.levelName (call : Call) (environment : Environment) : String × Cache :=
  match call.logLevel.filter (· != "") with
  | some name => (Text.upper name, {})
  | none =>
    let (_, settings, cache) := ({} : Cache).readSettings environment
    (settings.logLevel.name, cache)

/-- Calls the program with arguments, in an environment and above a tree of files. -/
def callProgram (environment : Environment) (tree : FileTree) (arguments : List String) :
    CallResult :=
  match Call.ofArguments arguments with
  | .error stop => .stopped stop
  | .ok call =>
    let (name, cache) := call.levelName environment
    match thresholdOf? name with
    | none => .failed (.unknownLevel name)
    | some threshold => (call.command.run environment cache tree).finish threshold

end PipelineOverride
