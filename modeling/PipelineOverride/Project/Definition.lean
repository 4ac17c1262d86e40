import PipelineOverride.Failure

/-!
# Options, tasks and projects

What a project declares. An option is a choice among cases, a switch between two cases, or a form
whose slots are filled into a template. Reading a declaration converts its shape and checks only
what it needs; labels and the like are kept as they come.
-/

set_option autoImplicit false

namespace PipelineOverride

/-- One branch of a select or switch option. -/
structure Case where
  name : String
  label : Document
  description : Document
  /-- The options that become active with this case. -/
  options : List Document
  override : Option Document

structure Slot where
  name : String
  default : String
  type : SlotType
  /-- The pattern that a value should match. -/
  verify : Option Document
  /-- What is said when it does not. -/
  patternMessage : Document
  label : Document
  description : Document
  inputType : Document

/-- The text in a template that stands for a slot. -/
def Slot.placeholder (slot : Slot) : String :=
  "\x7b" ++ slot.name ++ "\x7d"

/-- The cases of a select or switch option. -/
structure Choice where
  cases : List Case
  defaultCase : Option Document
  label : Document
  description : Document

def Choice.find? (choice : Choice) (name : Document) : Option Case :=
  choice.cases.find? fun branch => name.isText branch.name

/-- The slots of an input option and the template that they are filled into. -/
structure Form where
  slots : List Slot
  override : Option Document
  label : Document
  description : Document

/-- The declaration of an option. -/
inductive OptionDefinition where
  | select (choice : Choice)
  | switch (choice : Choice)
  | input (form : Form)

namespace OptionDefinition

def kind : OptionDefinition → OptionKind
  | .select _ => .select
  | .switch _ => .switch
  | .input _ => .input

/-- The choice of an option that has cases. -/
def choice? : OptionDefinition → Option Choice
  | .select choice => some choice
  | .switch choice => some choice
  | .input _ => none

/-- The cases of an option, none for an input option. -/
def cases (definition : OptionDefinition) : List Case :=
  (definition.choice?.map Choice.cases).getD []

end OptionDefinition

/-- The options of a project by their ids. -/
abbrev Registry := Table OptionDefinition

/-- A task: its own override and the options that vary it. -/
structure Task where
  name : String
  options : List Document
  override : Option Document
  entry : Document
  label : Document
  description : Document
  defaultCheck : Bool
  resource : List Document
  controller : List Document

structure Project where
  name : Document
  version : String
  tasks : List Task
  options : Registry

def Project.task? (project : Project) (name : String) : Option Task :=
  project.tasks.find? fun task => task.name = name

/-!
## Reading declarations
-/

/-- The empty text, which stands for a label that is not given. -/
def noText : Document := .text ""

/-- The name that a declaration must give, as a text. -/
def declaredName (fields : Table Document) : Except Failure String :=
  match fields.get? "name" with
  | some name => name.shown
  | none => .error (.missingField "name")

def Case.ofDocument (document : Document) : Except Failure Case := do
  let fields ← match document.fields? with
    | some fields => pure fields
    | none => throw .wrongKind
  let name ← declaredName fields
  let options ← (fields.getD "option" (.list [])).elements
  return {
    name := name
    label := fields.getD "label" noText
    description := fields.getD "description" noText
    options := options
    override := fields.given? "pipeline_override" }

/-- The type of a slot, text where none is given. -/
def declaredSlotType (fields : Table Document) : Except Failure SlotType := do
  let typeName := Text.lower (← (fields.getD "pipeline_type" (.text "string")).shown)
  match SlotType.ofName? typeName with
  | some type => return type
  | none => throw (.unknownSlotType typeName (← (fields.getD "name" .null).shown))

/-- The default of a slot as a text, empty where none is given. -/
def declaredDefault (fields : Table Document) : Except Failure String :=
  let given := fields.getD "default" noText
  if given.isNull then .ok "" else given.shown

/-- Reads a slot. The type is looked at before the name. -/
def Slot.ofDocument (document : Document) : Except Failure Slot := do
  let fields ← document.fields
  let type ← declaredSlotType fields
  let name ← declaredName fields
  let default ← declaredDefault fields
  return {
    name := name
    default := default
    type := type
    verify := fields.given? "verify"
    patternMessage := fields.getD "pattern_msg" noText
    label := fields.getD "label" noText
    description := fields.getD "description" noText
    inputType := fields.getD "input_type" (.text "text") }

/-- The kind that a tag stands for, where the tag can be shown. -/
def OptionKind.ofTag (tag : Document) : Except Failure (Option OptionKind) :=
  if tag.isShown then .ok (ofTag? tag) else .error .badValue

def OptionDefinition.ofDocument (document : Document) : Except Failure OptionDefinition := do
  let fields ← document.fields
  let tag := fields.getD "type" .null
  let label := fields.getD "label" noText
  let description := fields.getD "description" noText
  match ← OptionKind.ofTag tag with
  | none => throw (.unknownOptionKind tag.display)
  | some .input =>
    let slots ← (← (fields.getD "inputs" (.list [])).elements).mapM Slot.ofDocument
    return .input ⟨slots, fields.given? "pipeline_override", label, description⟩
  | some kind =>
    let cases ← (← (fields.getD "cases" (.list [])).elements).mapM Case.ofDocument
    let choice : Choice := ⟨cases, fields.given? "default_case", label, description⟩
    return if kind = .switch then .switch choice else .select choice

def Registry.ofFields : List (Scalar × Document) → Except Failure (List (Scalar × OptionDefinition))
  | [] => .ok []
  | (id, document) :: rest => do
    let definition ← OptionDefinition.ofDocument document
    let others ← Registry.ofFields rest
    return (id, definition) :: others

/-- Reads a registry. A void document stands for no options. -/
def Registry.ofDocument (document : Document) : Except Failure Registry := do
  if document.isVoid then return []
  Registry.ofFields (← document.fields)

/-- Reads a task, which is called by its name, or by its id where it has no name field. -/
def Task.ofDocument (document : Document) : Except Failure Task := do
  let fields ← document.fields
  let given := fields.getD "name" (fields.getD "id" .null)
  if given.isVoid then throw .namelessTask
  let name ← given.shown
  let options ← (fields.getD "option" (.list [])).elements
  let resource ← (fields.getD "resource" (.list [])).elements
  let controller ← (fields.getD "controller" (.list [])).elements
  return {
    name := name
    options := options
    override := fields.given? "pipeline_override"
    entry := fields.getD "entry" noText
    label := fields.getD "label" noText
    description := fields.getD "description" noText
    defaultCheck := !(fields.getD "default_check" (.bool false)).isVoid
    resource := resource
    controller := controller }

/-- Reads a project. Its structure is checked elsewhere. -/
def Project.ofDocument (document : Document) : Except Failure Project := do
  let fields ← document.fields
  let tasks ← (← (fields.getD "task" (.list [])).elements).mapM Task.ofDocument
  let options ← Registry.ofDocument (fields.getD "option" .null)
  let version ← (fields.getD "version" noText).shown
  return {
    name := fields.getD "name" noText
    version := version
    tasks := tasks
    options := options }

end PipelineOverride
