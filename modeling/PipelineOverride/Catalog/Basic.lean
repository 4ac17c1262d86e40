import PipelineOverride.Project.Reference
import PipelineOverride.Validation.Structure

/-!
# The catalog of built-in tasks

Tasks that the program ships itself, with the options that they use. Each task has only the options
that can be reached from it through cases, whether a case can become active or not.
-/

set_option autoImplicit false

namespace PipelineOverride

/-- Built-in tasks with distinct names, and their options. -/
structure Catalog where
  tasks : List Task
  options : Registry

namespace Catalog

/-- The tasks without those whose name is taken by an earlier one. -/
def firstOfEachName (taken : List String) : List Task → List Task
  | [] => []
  | task :: rest =>
    if taken.contains task.name then firstOfEachName taken rest
    else task :: firstOfEachName (task.name :: taken) rest

/-- The catalog of the tasks and options of a project. -/
def ofProject (project : Project) : Catalog :=
  ⟨firstOfEachName [] project.tasks, project.options⟩

/-- The catalog of a document, which must be an accepted project document. -/
def ofDocument (document : Document) (source : String) : Report Catalog := do
  let project ← Project.checked document source
  return ofProject project

/-- Tells of a catalog that was read from a file. -/
def loadedNotice (catalog : Catalog) (path : String) : Notice :=
  ⟨.debug, .builtin, "Loaded " ++ Decimal.natText catalog.tasks.length
    ++ " built-in task(s) from " ++ path⟩

/-- The catalog of a document that was read from a file. -/
def ofFileDocument (document : Document) (path : String) : Report Catalog := do
  let catalog ← ofDocument (document.orIfVoid (.mapping [])) path
  Report.note (catalog.loadedNotice path)
  return catalog

def task? (catalog : Catalog) (name : String) : Option Task :=
  catalog.tasks.find? fun task => task.name = name

def isBuiltin (catalog : Catalog) (name : String) : Bool :=
  (catalog.task? name).isSome

/-- The option of an id, whichever task uses it. -/
def option? (catalog : Catalog) (id : Scalar) : Option OptionDefinition :=
  catalog.options.lookup id

/-- The ids that can be reached from a task, defined or not. None if there is no such task. -/
def reachable (catalog : Catalog) (taskName : String) : List Scalar :=
  match catalog.task? taskName with
  | some task => reach catalog.options [] task.options
  | none => []

/-- The option of an id, if the task of a name uses it. -/
def taskOption? (catalog : Catalog) (taskName : String) (id : Scalar) :
    Option OptionDefinition :=
  if (catalog.reachable taskName).any fun other => other.same id then catalog.option? id
  else none

end Catalog

end PipelineOverride
