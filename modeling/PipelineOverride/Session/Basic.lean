import PipelineOverride.Document.Write
import PipelineOverride.Session.Cache

/-!
# Sessions

A long-lived use of the program: the environment changes, settings and catalog are kept and reset,
a project is loaded, selections are made and undone, and tasks are compiled in between. A session
is a state machine; each step gives a report and the next state, also when it fails.
-/

set_option autoImplicit false

namespace PipelineOverride

/-- The environment variables that a step can set. -/
inductive Variable where
  | builtinOutput
  | standardOutput
  | logLevel

def Environment.set (environment : Environment) (value : Option String) :
    Variable → Environment
  | .builtinOutput => { environment with builtinOutput := value }
  | .standardOutput => { environment with standardOutput := value }
  | .logLevel => { environment with logLevel := value }

structure Session where
  environment : Environment := {}
  cache : Cache := {}
  /-- The load of the settings that was read last. -/
  settingsRead : Option Nat := none
  /-- The load of the catalog that was read last. -/
  catalogRead : Option Nat := none
  /-- Whether a project was loaded at all, and the project if there is one. -/
  project : Option (Option Project) := none
  compiler : Option Compiler := none
  selections : Table Document := []
  lastOverride : Option Document := none
  merged : Document := .mapping []

inductive Step where
  | setVariables (changes : List (Variable × Option String))
  | readSettings
  | resetSettings
  | readCatalog
  | resetCatalog
  | load (document : Option Document) (check : Bool)
  | buildCompiler (catalog : Option Document) (settings : Option (Table Document))
  | select (option : String) (entry : Document)
  | unselect (option : String)
  | clear
  | compile (task : String) (mode : Option String)
  | render (task : String) (mode : Option String)
  | write (path : List Scalar) (value : Document)
  | showProject
  | merge (source : Document)
  | resetMerge

/-- What a step gives. -/
inductive Answer where
  | done
  /-- Settings, and whether they are of the load that was read before. -/
  | settings (settings : Settings) (same : Bool)
  /-- Names of built-in tasks, and whether they are of the load that was read before. -/
  | catalog (names : List String) (same : Bool)
  | project (project : Option Project)
  | names (project : Option Project)
  | value (value : Option OptionValue)
  | removed (removed : Bool)
  | document (document : Document)
  | text (text : String)

namespace Session

def currentProject (session : Session) : Option Project :=
  session.project.join

/-- The compiler in use: the kept one, else a new one for the current project. -/
def currentCompiler (session : Session) : List Notice × Compiler × Session :=
  match session.compiler with
  | some compiler => ([], compiler, session)
  | none =>
    let (notices, compiler, cache) :=
      session.cache.compiler session.environment session.currentProject none none
    (notices, compiler, { session with cache := cache })

/-- The task of a name with the current selections. -/
def selectedTask (session : Session) (task : String) : Report SelectedTask := do
  let values ← SelectionStore.ofDocument (.mapping session.selections)
  return { taskName := task, values := values }

/-- The notices that came before a report, together with it. -/
def after {α : Type} (notices : List Notice) (report : Report α) : Report α :=
  ⟨notices ++ report.notices, report.outcome⟩

/-- Compiles with the current compiler and selections. -/
def run {α : Type} (session : Session) (task : String) (mode : Option String)
    (action : Compiler → SelectedTask → Option OutputMode → Report α) : Report α × Session :=
  let (notices, compiler, session) := session.currentCompiler
  (after notices do
    let selected ← session.selectedTask task
    let mode ← Report.ofExcept (OutputMode.ofRequest mode)
    action compiler selected mode,
    session)

/-- Reads a project for use, checking it first if so asked. -/
def readProject (document : Option Document) (check : Bool) : Report (Option Project) :=
  match document with
  | none => .done none
  | some document => do
    let project ← if check then Project.checked document "project" else Project.parse document
    return some project

def buildCompiler (session : Session) (catalog : Option Document)
    (settings : Option (Table Document)) : Report (Compiler × Cache) := do
  let catalog ←
    match catalog with
    | none => pure none
    | some document => some <$> Catalog.ofDocument document "builtin catalog"
  let (catalogNotices, catalog, cache) :=
    match catalog with
    | some catalog => ([], catalog, session.cache)
    | none => session.cache.readCatalog
  ⟨catalogNotices, .ok ()⟩
  let settings ←
    match settings with
    | none => pure none
    | some fields => some <$> Report.ofExcept (Settings.given fields)
  let (notices, compiler, cache) :=
    cache.compiler session.environment session.currentProject (some catalog) settings
  ⟨notices, .ok (compiler, cache)⟩

/-- The next state after a report, unchanged if it is a failure. -/
def advance {α : Type} (session : Session) (report : Report α) (next : α → Session) : Session :=
  match report.outcome with
  | .ok value => next value
  | .error _ => session

def step (session : Session) : Step → Report Answer × Session
  | .setVariables changes =>
    (.done .done, { session with
      environment := changes.foldl (fun environment change =>
        environment.set change.2 change.1) session.environment })
  | .readSettings =>
    let (notices, settings, cache) := session.cache.readSettings session.environment
    (⟨notices, .ok (.settings settings (session.settingsRead = some cache.settingsLoads))⟩,
      { session with cache := cache, settingsRead := some cache.settingsLoads })
  | .resetSettings => (.done .done, { session with cache := session.cache.resetSettings })
  | .readCatalog =>
    let (notices, catalog, cache) := session.cache.readCatalog
    (⟨notices, .ok (.catalog (catalog.tasks.map Task.name)
      (session.catalogRead = some cache.catalogLoads))⟩,
      { session with cache := cache, catalogRead := some cache.catalogLoads })
  | .resetCatalog => (.done .done, { session with cache := session.cache.resetCatalog })
  | .load document check =>
    let report := readProject document check
    let cleared := { session with project := some none }
    (Answer.names <$> report,
      cleared.advance report fun project => { session with project := some project })
  | .buildCompiler catalog settings =>
    let report := session.buildCompiler catalog settings
    ((fun _ => Answer.done) <$> report,
      session.advance report fun (compiler, cache) =>
        { session with compiler := some compiler, cache := cache })
  | .select option entry =>
    let selections := Table.insert session.selections (.text option) entry
    ((fun store => Answer.value (Table.get? store option)) <$>
        SelectionStore.ofDocument (.mapping selections),
      { session with selections := selections })
  | .unselect option =>
    (.done (.removed (Table.given? session.selections option).isSome),
      { session with selections := Table.erase session.selections (.text option) })
  | .clear => (.done .done, { session with selections := [] })
  | .compile task mode =>
    let (report, session) := session.run task mode Compiler.compile
    (Answer.document <$> report,
      session.advance report fun document => { session with lastOverride := some document })
  | .render task mode =>
    let (report, session) := session.run task mode Compiler.render
    (Answer.text <$> report, session)
  | .write path value =>
    let report : Report Document := Report.ofExcept
      (match session.lastOverride with
        | some document => document.put path value
        | none => .error (.missingField "last"))
    (Answer.document <$> report,
      session.advance report fun document => { session with lastOverride := some document })
  | .showProject =>
    (match session.project with
      | some project => .done (.project project)
      | none => .fail (.missingField "project"), session)
  | .merge source =>
    let report := Report.ofExcept (deepMerge session.merged source)
    (report.andThen fun document =>
        match Json.compact? document with
        | some s => .done (.text s)
        | none => .fail .wrongKind,
      session.advance report fun document => { session with merged := document })
  | .resetMerge => (.done .done, { session with merged := .mapping [] })

/-- Performs steps one after another, whether they fail or not. -/
def perform (session : Session) : List Step → List (Report Answer)
  | [] => []
  | step :: rest =>
    let (report, session) := session.step step
    report :: perform session rest

end Session

end PipelineOverride
