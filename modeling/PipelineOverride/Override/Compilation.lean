import PipelineOverride.Catalog.Basic
import PipelineOverride.Json.Printer
import PipelineOverride.Override.Merge
import PipelineOverride.Override.Substitution
import PipelineOverride.Settings

/-!
# Compilation

The override of a selected task: its options are resolved, the fragments rendered, and the result
emitted in an output mode. A built-in task comes before a task of the project with the same name,
and it is always emitted merged under the settings that a settings file can give.
-/

set_option autoImplicit false

namespace PipelineOverride

/-- Emits fragments after a base. The array mode keeps them apart, the other modes merge them. -/
def emit (fragments : List Document) (base : Option Document) :
    OutputMode → Except Failure Document
  | .array => do
    let tables ← (base.toList ++ fragments).mapM Document.toTable
    return .list (tables.map Document.mapping)
  | .object => mergeFragments fragments base
  | .wrapped => do
    return .list [← mergeFragments fragments base]

/-- What overrides are compiled from. -/
structure Compiler where
  project : Option Project
  catalog : Catalog
  settings : Settings

/-- A task with the registry that its options are resolved against. -/
structure TaskContext where
  task : Task
  registry : Registry
  builtin : Bool

namespace Compiler

/-- The registry of built-in tasks. The options of the catalog are preferred to those of the
project. -/
def builtinRegistry (compiler : Compiler) : Registry :=
  match compiler.project with
  | some project => Table.union compiler.catalog.options project.options
  | none => compiler.catalog.options

def context? (compiler : Compiler) (name : String) : Option TaskContext :=
  match compiler.catalog.task? name with
  | some task => some ⟨task, compiler.builtinRegistry, true⟩
  | none => do
    let project ← compiler.project
    let task ← project.task? name
    pure ⟨task, project.options, false⟩

/-- What is told of a name without a task. -/
def missingNotice (compiler : Compiler) (name : String) : Notice :=
  match compiler.project with
  | none => ⟨.warning, .compiler, "No project loaded, cannot compile task '" ++ name ++ "'"⟩
  | some project =>
    ⟨.warning, .compiler, "Task '" ++ name ++ "' not found in project '"
      ++ project.name.display ++ "'"⟩

/-- The context of the task of a name, with a notice where there is none. -/
def lookup (compiler : Compiler) (name : String) : Report (Option TaskContext) :=
  match compiler.context? name with
  | some context => .done (some context)
  | none => ⟨[compiler.missingNotice name], .ok none⟩

/-- The output mode for a task. A built-in task never takes the array mode from a request. -/
def outputMode (compiler : Compiler) (builtin : Bool) (requested : Option OutputMode) :
    OutputMode :=
  if builtin then (requested.filter (· != .array)).getD compiler.settings.builtinOutput
  else requested.getD compiler.settings.standardOutput

def compiledNotice (name : String) (count : Nat) (mode : OutputMode) : Notice :=
  ⟨.debug, .compiler, "Compiled task '" ++ name ++ "': " ++ Decimal.natText count
    ++ " fragment(s), mode=" ++ mode.name⟩

def fragments (context : TaskContext) (selections : SelectionStore) : Report (List Document) := do
  let resolved ← resolve context.registry selections context.task.options
  renderFragments resolved

/-- The override of a selected task. A task that is missing has an empty one. -/
def compile (compiler : Compiler) (selected : SelectedTask) (requested : Option OutputMode) :
    Report Document := do
  match ← compiler.lookup selected.taskName with
  | none => return .list []
  | some context =>
    let fragments ← fragments context selected.values
    let mode := compiler.outputMode context.builtin requested
    Report.note (compiledNotice context.task.name fragments.length mode)
    Report.ofExcept (emit fragments context.task.override mode)

/-- The override of a selected task as JSON text. -/
def render (compiler : Compiler) (selected : SelectedTask) (requested : Option OutputMode) :
    Report String := do
  let document ← compiler.compile selected requested
  match Json.compact? document with
  | some s => return s
  | none => Report.fail .wrongKind

end Compiler

end PipelineOverride
