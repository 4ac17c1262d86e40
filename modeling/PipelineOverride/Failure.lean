import PipelineOverride.Project.Kinds

/-!
# Failures

Why an operation gives no result. Each cause is a constructor; the wording of those that have one
is in `message?`.
-/

set_option autoImplicit false

namespace PipelineOverride

/-- A problem of a project document at a dotted path. -/
structure Issue where
  path : String
  message : String
  /-- The offending value, null where the problem is not one value. -/
  value : Document := .null

/-- An issue with its path in brackets. -/
def Issue.text (issue : Issue) : String :=
  if issue.path.isEmpty then issue.message else "[" ++ issue.path ++ "] " ++ issue.message

/-- A slot whose value cannot take the type of the slot. -/
structure SlotError where
  slot : String
  value : String
  type : SlotType
  deriving DecidableEq, Repr

/-- A slot error with the value between quotation marks. -/
def SlotError.message (error : SlotError) : String :=
  "Value " ++ Text.quote error.value ++ " for '\x7b" ++ error.slot ++ "\x7d' is not a valid "
    ++ error.type.name

/-- Why a file gives no project. -/
inductive FileFault where
  | missing (path : String)
  | badYaml (path : String)
  | badJson (path : String)
  | empty (path : String)
  | notMapping (path : String) (kind : String)
  | badImports (given : Document)
  | selectionsMissing (path : String)
  | badSelections (path : String)
  | selectionsNotMapping (path : String) (kind : String)

def FileFault.message : FileFault → String
  | .missing path => "Project interface not found at " ++ path
  | .badYaml path => "Invalid YAML in project interface " ++ path ++ ": ..."
  | .badJson path => "Invalid JSON in project interface " ++ path ++ ": ..."
  | .empty path => "Empty project interface: " ++ path
  | .notMapping path kind => "Project interface " ++ path ++ " must be a mapping, got " ++ kind
  | .badImports given => "'import' must be a list of paths, got " ++ given.literal
  | .selectionsMissing path => "Selections file not found at " ++ path
  | .badSelections path => "Invalid JSON in selections file " ++ path ++ ": ..."
  | .selectionsNotMapping path kind =>
    "Selections file " ++ path ++ " must be a mapping, got " ++ kind

/-- Why an operation gives no result. -/
inductive Failure where
  /-- A value of a kind that the operation has no use for. -/
  | wrongKind
  /-- A value without fields where fields are looked up. -/
  | noFields
  | missingField (name : String)
  | missingItem
  /-- A value of the right kind that is none of the allowed ones. -/
  | badValue
  /-- An integer beyond the range of floating-point numbers. -/
  | tooLarge
  /-- A slot type that has no meaning, with the name of the input that declares it. -/
  | unknownSlotType (given : String) (input : String)
  | unknownOptionKind (given : String)
  | namelessTask
  | namelessSelection
  /-- A value in place of something that only the library builds. -/
  | unsupported (what : String) (kind : String)
  | unknownLevel (given : String)
  /-- A slot value that cannot take its type. -/
  | slot (error : SlotError)
  /-- A file that gives no project. -/
  | file (fault : FileFault)
  /-- A document that is no project. -/
  | invalid (source : String) (issues : List Issue)
  /-- A directory where a file is read. -/
  | directory
  /-- A file that is not text. -/
  | undecodable
  /-- A settings or catalog file that is not YAML. -/
  | badYaml

/-- The wording of the failures that are worded here. -/
def Failure.message? : Failure → Option String
  | .unknownSlotType given input =>
    some ("Unknown pipeline_type '" ++ given ++ "' for input '" ++ input ++ "'")
  | .unknownOptionKind given => some ("Unknown option type '" ++ given ++ "'")
  | .namelessTask => some "Task definition has no name"
  | .namelessSelection => some "Selected task has no task name"
  | .unsupported what kind => some ("Unsupported " ++ what ++ ": " ++ kind)
  | .unknownLevel given => some ("Unknown level: " ++ Text.quote given)
  | .slot error => some error.message
  | .file fault => some fault.message
  | .invalid source issues =>
    some (source ++ " validation failed: " ++ "; ".intercalate (issues.map Issue.text))
  | _ => none

/-- A scalar as a message shows it, where it can be shown. -/
def Scalar.shown (value : Scalar) : Except Failure String :=
  if value.isShown then .ok value.display else .error .badValue

namespace Document

/-- A document as a message shows it, where it can be shown. -/
def shown (document : Document) : Except Failure String :=
  if document.isShown then .ok document.display else .error .badValue

/-- A document as an expression in a message, where it can be shown. -/
def shownLiteral (document : Document) : Except Failure String :=
  if document.isShown then .ok document.literal else .error .badValue

/-- The fields of a document that must have some. -/
def fields (document : Document) : Except Failure (Table Document) :=
  match document.fields? with
  | some fields => .ok fields
  | none => .error .noFields

/-- The elements of a document that must have some. -/
def elements (document : Document) : Except Failure (List Document) :=
  match document.elements? with
  | some elements => .ok elements
  | none => .error .wrongKind

end Document

end PipelineOverride
