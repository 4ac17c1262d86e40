import PipelineOverride.Api.Body
import PipelineOverride.Session.Cache
import PipelineOverride.Validation.InputCheck

/-!
# The web service

What the service answers. It compiles overrides, lists the built-in tasks and checks entered
values. Nothing that it is sent outlives the request, but settings and catalog are kept once they
are loaded. A fault of a request is a response, any other failure is left to the server.
-/

set_option autoImplicit false

namespace PipelineOverride.Api

def version : String := "0.3.0"

/-- A service in its environment, with what it has loaded. -/
structure Service where
  environment : Environment := {}
  cache : Cache := {}
  /-- Whether pages of other origins may use the service. -/
  crossOrigin : Bool := true

/-- What a request is for. -/
inductive Route where
  | health
  | builtinTasks
  | compile
  | verifyInput
  deriving DecidableEq, Repr

namespace Route

def ofPlace? : String → Option Route
  | "/api/health" => some .health
  | "/api/override/builtin-tasks" => some .builtinTasks
  | "/api/override/compile" => some .compile
  | "/api/override/verify-input" => some .verifyInput
  | _ => none

def verb : Route → String
  | .health => "GET"
  | .builtinTasks => "GET"
  | .compile => "POST"
  | .verifyInput => "POST"

end Route

/-- A step of an answer: its result, or the response with which the answer ends at once. -/
abbrev Answering (α : Type) := Report (Except Response α)

/-- The project of a request. One that is not accepted ends the answer. -/
def requestProject (document : Option (Table Document)) : Answering (Option Project) :=
  match document with
  | none => .done (.ok none)
  | some fields =>
    let report := Project.checked (.mapping fields) "request project"
    match report.outcome with
    | .ok project => ⟨report.notices, .ok (.ok (some project))⟩
    | .error (.invalid _ issues) =>
      ⟨report.notices, .ok (.error (.refused 422 (.object [("error", .text "invalid_project"),
        ("issues", .texts (issues.map Issue.text))])))⟩
    | .error failure => ⟨report.notices, .error failure⟩

def requestTask (document : Document) : Answering SelectedTask :=
  (SelectedTask.ofDocument document).andThen fun selected => .done (.ok selected)

/-- The output mode of a request, without regard to letter case. One that does not exist ends the
answer. -/
def requestMode : Option String → Answering (Option OutputMode)
  | none => .done (.ok none)
  | some name =>
    match OutputMode.ofName? (Text.lower name) with
    | some mode => .done (.ok (some mode))
    | none =>
      .done (.error (.refused 422 (.object [("error", .text "invalid_mode"),
        ("mode", .text name)])))

/-- A built-in task as the service lists it. -/
def taskItem (task : Task) : Document :=
  .object [("name", .text task.name), ("entry", task.entry), ("label", task.label),
    ("options", .list task.options)]

/-- The form of an option, which is looked for in the catalog first. -/
def form? (catalog : Catalog) (project : Option Project) (id : String) : Option Form :=
  let definition := (catalog.option? (.text id)).or
    (project.bind fun project => project.options.get? id)
  match definition with
  | some (.input form) => some form
  | _ => none

/-- The answer about a value that is entered for a slot of a form. -/
def verdict (form : Option Form) (request : VerifyRequest) : Except Failure Response :=
  match form with
  | none => .ok (.refused 404 (.text ("Input option not found: " ++ request.optionId)))
  | some form =>
    match form.slots.find? fun slot => slot.name = request.inputName with
    | none =>
      .ok (.refused 404 (.text ("Input '" ++ request.inputName ++ "' not found in option "
        ++ request.optionId)))
    | some slot =>
      (slot.check (.text request.value)).map fun fault =>
        .ok (.object [("valid", .bool fault.isNone), ("error", fault.getD .null)])

/-- The report of an answer, and what is kept after it. -/
abbrev Served := Report Response × Cache

namespace Service

/-- Goes on after a step, unless it ended the answer. -/
def next {α : Type} (service : Service) (answering : Answering α) (go : α → Served) : Served :=
  match answering.outcome with
  | .error failure => (⟨answering.notices, .error failure⟩, service.cache)
  | .ok (.error response) => (⟨answering.notices, .ok response⟩, service.cache)
  | .ok (.ok value) =>
    let (report, cache) := go value
    (⟨answering.notices ++ report.notices, report.outcome⟩, cache)

def reply (service : Service) (response : Response) : Served :=
  (.done response, service.cache)

/-- Answers whether the service is there, and with which settings. -/
def health (service : Service) : Served :=
  let (notices, settings, cache) := service.cache.readSettings service.environment
  (⟨notices, .ok (.ok (.object [("status", .text "ok"), ("version", .text version),
    ("builtin_output", .text settings.builtinOutput.name),
    ("standard_output", .text settings.standardOutput.name)]))⟩, cache)

def builtinTasks (service : Service) : Served :=
  let (notices, catalog, cache) := service.cache.readCatalog
  (⟨notices, .ok (.ok (.object [("tasks", .list (catalog.tasks.map taskItem)),
    ("count", .int catalog.tasks.length)]))⟩, cache)

/-- The answer about a task that is compiled. -/
def compiled (compiler : Compiler) (selected : SelectedTask) (mode : Option OutputMode) :
    Report Response := do
  let override ← compiler.compile selected mode
  return .ok (.object [("task_name", .text selected.taskName),
    ("builtin", .bool (compiler.catalog.isBuiltin selected.taskName)), ("override", override)])

def compile (service : Service) (request : CompileRequest) : Served :=
  service.next (requestProject request.project) fun project =>
    service.next (requestMode request.mode) fun mode =>
      service.next (requestTask request.task) fun selected =>
        let (notices, compiler, cache) :=
          service.cache.compiler service.environment project none none
        let report := compiled compiler selected mode
        (⟨notices ++ report.notices, report.outcome⟩, cache)

/-- Checks an entered value against the pattern of its slot. -/
def verifyInput (service : Service) (request : VerifyRequest) : Served :=
  service.next (requestProject request.project) fun project =>
    let (notices, catalog, cache) := service.cache.readCatalog
    (⟨notices, verdict (form? catalog project request.optionId) request⟩, cache)

/-- Answers a request whose body has a shape. -/
def withBody {α : Type} (service : Service) (body : Checked α) (go : α → Served) : Served :=
  match body with
  | .ok request => go request
  | .error findings => service.reply (.invalid findings)

def serve (service : Service) (request : Request) : Route → Served
  | .health => service.health
  | .builtinTasks => service.builtinTasks
  | .compile =>
    service.withBody (readBody CompileRequest.read request.body) service.compile
  | .verifyInput =>
    service.withBody (readBody VerifyRequest.read request.body) service.verifyInput

/-- Answers a request, wherever it comes from. -/
def dispatch (service : Service) (request : Request) : Served :=
  match Route.ofPlace? request.place with
  | none => service.reply (.refused 404 (.text "Not Found"))
  | some route =>
    if request.verb = route.verb then service.serve request route
    else service.reply (.refused 405 (.text "Method Not Allowed"))

/-- The methods that pages of other origins may use. -/
def sharedVerbs : List String := ["GET", "POST", "OPTIONS"]

/-- The answer to a page that asks whether it may use a method. -/
def preflight (verb : String) : Response :=
  let (status, body) :=
    if sharedVerbs.contains verb then (200, "OK") else (400, "Disallowed CORS method")
  ⟨status, .document (.text body), some "*"⟩

/-- Answers a request with leave for every origin to read the answer. -/
def dispatchShared (service : Service) (request : Request) : Served :=
  let (report, cache) := service.dispatch request
  ((fun response => { response with allowOrigin := some "*" }) <$> report, cache)

/-- Answers a request. A request that names its origin is told who may read the answer. -/
def answer (service : Service) (request : Request) : Served :=
  if service.crossOrigin && (request.header? "origin").isSome then
    match request.header? "access-control-request-method" with
    | some verb =>
      if request.verb = "OPTIONS" then service.reply (preflight verb)
      else service.dispatchShared request
    | none => service.dispatchShared request
  else service.dispatch request

end Service

end PipelineOverride.Api
