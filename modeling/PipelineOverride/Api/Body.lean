import PipelineOverride.Api.Message
import PipelineOverride.Document.Display

/-!
# Bodies of requests

The shapes that the bodies of requests must have. Every part is checked, whatever is wrong with the
others, so that a response can name all faults at once, in the order of the fields of the shape.
-/

set_option autoImplicit false

namespace PipelineOverride.Api

/-- A value, or everything that is wrong with what should give it. -/
abbrev Checked (α : Type) := Except (List Finding) α

namespace Checked

variable {α β : Type}

/-- Two values. The faults of both sides are kept. -/
def both (first : Checked α) (second : Checked β) : Checked (α × β) :=
  match first, second with
  | .ok a, .ok b => .ok (a, b)
  | .error faults, .ok _ => .error faults
  | .ok _, .error faults => .error faults
  | .error faults, .error others => .error (faults ++ others)

/-- Both sides are without fault exactly when they are so together. -/
def fault (complaint : Complaint) (steps : List String) : Checked α :=
  .error [⟨complaint, steps⟩]

end Checked

def asText (steps : List String) (document : Document) : Checked String :=
  match document.text? with
  | some s => .ok s
  | none => .fault .noText steps

/-- A document as a text that is not empty. -/
def asName (steps : List String) (document : Document) : Checked String :=
  match document.text? with
  | some "" => .fault .tooShort steps
  | some s => .ok s
  | none => .fault .noText steps

def asMapping (steps : List String) (document : Document) : Checked (Table Document) :=
  match document.fields? with
  | some fields => .ok fields
  | none => .fault .noMapping steps

def asMappings (steps : List String) :
    List (Scalar × Document) → Checked (List (Scalar × Document))
  | [] => .ok []
  | (key, value) :: rest =>
    ((asMapping (steps ++ [key.display]) value).both (asMappings steps rest)).map
      fun (fields, others) => (key, .mapping fields) :: others

/-- A document as a mapping of mappings. -/
def asTables (steps : List String) (document : Document) : Checked (Table Document) := do
  asMappings steps (← asMapping steps document)

def required {α : Type} (fields : Table Document) (steps : List String) (name : String)
    (read : List String → Document → Checked α) : Checked α :=
  match fields.get? name with
  | some value => read (steps ++ [name]) value
  | none => .fault .missing (steps ++ [name])

/-- A field with a default for when it is missing. -/
def defaulted {α : Type} (fields : Table Document) (steps : List String) (name : String)
    (default : α) (read : List String → Document → Checked α) : Checked α :=
  match fields.get? name with
  | some value => read (steps ++ [name]) value
  | none => .ok default

def optional {α : Type} (fields : Table Document) (steps : List String) (name : String)
    (read : List String → Document → Checked α) : Checked (Option α) :=
  match fields.given? name with
  | some value => (read (steps ++ [name]) value).map some
  | none => .ok none

def asModel {α : Type} (read : List String → Table Document → Checked α) (steps : List String)
    (document : Document) : Checked α :=
  match document.fields? with
  | some fields => read steps fields
  | none => .fault .noModel steps

def readBody {α : Type} (read : List String → Table Document → Checked α)
    (body : Option Document) : Checked α :=
  match body with
  | some document => asModel read ["body"] document
  | none => .fault .missing ["body"]

/-- The task of a compile request, as a selected task is written. -/
def readTask (steps : List String) (fields : Table Document) : Checked Document :=
  let name := required fields steps "task_name" asName
  let values := defaulted fields steps "option_values" [] asTables
  let id := defaulted fields steps "id" "" asText
  (name.both (values.both id)).map fun (name, values, id) =>
    .object [("task_name", .text name), ("option_values", .mapping values), ("id", .text id)]

structure CompileRequest where
  task : Document
  project : Option (Table Document)
  mode : Option String

def CompileRequest.read (steps : List String) (fields : Table Document) :
    Checked CompileRequest :=
  let task := required fields steps "task" (asModel readTask)
  let project := optional fields steps "project" asMapping
  let mode := optional fields steps "mode" asText
  (task.both (project.both mode)).map fun (task, project, mode) => ⟨task, project, mode⟩

/-- A request to check an entered value. -/
structure VerifyRequest where
  optionId : String
  inputName : String
  value : String
  project : Option (Table Document)

def VerifyRequest.read (steps : List String) (fields : Table Document) : Checked VerifyRequest :=
  let id := required fields steps "option_id" asText
  let name := required fields steps "input_name" asText
  let value := required fields steps "value" asText
  let project := optional fields steps "project" asMapping
  (id.both (name.both (value.both project))).map fun (id, name, value, project) =>
    ⟨id, name, value, project⟩

end PipelineOverride.Api
