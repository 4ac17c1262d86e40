import PipelineOverride.Failure

/-!
# Schemas

Shapes of documents and the check of a document against a shape. A check gives every violation, in
the order of the rules of the shape, with the path to the offending value. An issue words a
violation, which fails where the value or the path cannot be shown.
-/

set_option autoImplicit false

namespace PipelineOverride

/-- The kinds of values that a shape can ask for. -/
inductive ValueKind where
  | string
  | number
  | boolean
  | array
  | object
  deriving DecidableEq, Repr

namespace ValueKind

def name : ValueKind → String
  | .string => "string"
  | .number => "number"
  | .boolean => "boolean"
  | .array => "array"
  | .object => "object"

/-- Whether a document is of a kind. Truth values are no numbers. -/
def admits : ValueKind → Document → Bool
  | .string, .text _ => true
  | .number, .int _ => true
  | .number, .float _ => true
  | .boolean, .bool _ => true
  | .array, .list _ => true
  | .object, .mapping _ => true
  | _, _ => false

end ValueKind

/-- A shape of documents. All but `kinds` and `oneOf` say nothing of documents of other kinds. -/
inductive Schema where
  /-- The document is of one of the kinds. -/
  | kinds (allowed : List ValueKind)
  /-- The named fields, where they are there, have the shapes. -/
  | fields (shapes : List (String × Schema))
  | everyField (shape : Schema)
  | items (shape : Schema)
  | required (names : List String)
  | nonEmpty
  | oneOf (texts : List String)
  /-- At least one of the named fields is there. -/
  | requiredAny (names : List String)
  /-- The document has all of the shapes. -/
  | all (shapes : List Schema)

/-- What is wrong with a value that violates a shape. -/
inductive Complaint where
  | notOfKind (allowed : List ValueKind)
  | missing (name : String)
  | empty
  | notOneOf (texts : List String)
  | noneRequired

/-- A step on the path to a value inside a document. -/
inductive PathStep where
  | key (name : Scalar)
  | index (position : Nat)

def PathStep.shown : PathStep → Except Failure String
  | .key name => name.shown
  | .index position => .ok (Decimal.natText position)

/-- The steps that a key makes. The absent value as a key makes none. -/
def keySteps : Scalar → List PathStep
  | .null => []
  | key => [.key key]

/-- A value that violates a shape, with the path to it. -/
structure Violation where
  path : List PathStep
  complaint : Complaint
  value : Document

namespace Schema

mutual

def check (path : List PathStep) (document : Document) : Schema → List Violation
  | .kinds allowed =>
    if allowed.any fun kind => kind.admits document then []
    else [⟨path, .notOfKind allowed, document⟩]
  | .fields shapes =>
    match document.fields? with
    | some table => checkFields path table shapes
    | none => []
  | .everyField shape =>
    match document.fields? with
    | some table =>
      table.flatMap fun field => check (path ++ keySteps field.1) field.2 shape
    | none => []
  | .items shape =>
    match document with
    | .list members =>
      members.zipIdx.flatMap fun item => check (path ++ [.index item.2]) item.1 shape
    | _ => []
  | .required names =>
    match document.fields? with
    | some table =>
      (names.filter fun name => (table.get? name).isNone).map fun name =>
        ⟨path, .missing name, document⟩
    | none => []
  | .nonEmpty => if document.isText "" then [⟨path, .empty, document⟩] else []
  | .oneOf texts =>
    if texts.any document.isText then [] else [⟨path, .notOneOf texts, document⟩]
  | .requiredAny names =>
    match document.fields? with
    | some table =>
      if names.any fun name => (table.get? name).isSome then []
      else [⟨path, .noneRequired, document⟩]
    | none => []
  | .all shapes => checkAll path document shapes

def checkFields (path : List PathStep) (table : Table Document) :
    List (String × Schema) → List Violation
  | [] => []
  | (name, shape) :: rest =>
    (match table.get? name with
      | some value => check (path ++ [.key (.text name)]) value shape
      | none => [])
    ++ checkFields path table rest

/-- The violations of several shapes, one shape after another. -/
def checkAll (path : List PathStep) (document : Document) : List Schema → List Violation
  | [] => []
  | shape :: rest => check path document shape ++ checkAll path document rest

end

end Schema

/-- Whether one path comes before another or equals it, step by step. -/
def pathLe : List String → List String → Bool
  | [], _ => true
  | _ :: _, [] => false
  | a :: as, b :: bs => if a = b then pathLe as bs else decide (a < b)

/-- Texts between quotation marks, in a list. -/
def quotedList (texts : List String) : String :=
  ", ".intercalate (texts.map Text.quote)

/-- The wording of a violation. All but that of a missing field show the value. -/
def Violation.message (violation : Violation) : Except Failure String :=
  match violation.complaint with
  | .missing name => .ok (Text.quote name ++ " is a required property")
  | .notOfKind allowed => do
    return (← violation.value.shownLiteral) ++ " is not of type "
      ++ quotedList (allowed.map ValueKind.name)
  | .empty => do return (← violation.value.shownLiteral) ++ " should be non-empty"
  | .notOneOf texts => do
    return (← violation.value.shownLiteral) ++ " is not one of [" ++ quotedList texts ++ "]"
  | .noneRequired => do
    return (← violation.value.shownLiteral) ++ " is not valid under any of the given schemas"

/-- The issue of a violation and the steps of its path as texts. The path of the whole document is
called the root. -/
def Violation.issue (violation : Violation) : Except Failure (List String × Issue) := do
  let message ← violation.message
  let steps ← violation.path.mapM PathStep.shown
  let joined := ".".intercalate steps
  return (steps, ⟨if joined.isEmpty then "root" else joined, message, violation.value⟩)

/-- The issues of a document under a shape, sorted by path. Issues of one path keep their order. -/
def Schema.issues (shape : Schema) (document : Document) : Except Failure (List Issue) := do
  let issues ← (shape.check [] document).mapM Violation.issue
  return (issues.mergeSort fun a b => pathLe a.1 b.1).map Prod.snd

/-!
## The shape of project documents
-/

namespace ProjectSchema

open Schema

def string : Schema := .kinds [.string]

/-- A text that names something. -/
def name : Schema := .all [string, .nonEmpty]

def optionIds : Schema := .all [.kinds [.array], .items string]

def override : Schema := .kinds [.object]

def task : Schema :=
  .all [
    .kinds [.object],
    .fields [
      ("name", name), ("id", name), ("entry", string), ("label", string),
      ("description", string), ("default_check", .kinds [.boolean]), ("option", optionIds),
      ("pipeline_override", override)],
    .requiredAny ["name", "id"]]

def case : Schema :=
  .all [
    .kinds [.object],
    .fields [
      ("name", name), ("label", string), ("option", optionIds),
      ("pipeline_override", override)],
    .required ["name"]]

def slot : Schema :=
  .all [
    .kinds [.object],
    .fields [
      ("name", name), ("default", .kinds [.string, .number, .boolean]),
      ("pipeline_type", .oneOf ["string", "text", "int", "integer", "bool", "boolean"]),
      ("verify", string), ("pattern_msg", string), ("input_type", .oneOf ["text", "file"])],
    .required ["name"]]

def option : Schema :=
  .all [
    .kinds [.object],
    .fields [
      ("type", .oneOf ["select", "choice", "switch", "boolean", "input", "freetext"]),
      ("label", string), ("default_case", string),
      ("cases", .all [.kinds [.array], .items case]),
      ("inputs", .all [.kinds [.array], .items slot]),
      ("pipeline_override", override)]]

def project : Schema :=
  .all [
    .kinds [.object],
    .fields [
      ("name", string), ("version", .kinds [.string, .number]),
      ("import", .all [.kinds [.array], .items string]),
      ("task", .all [.kinds [.array], .items task]),
      ("option", .all [.kinds [.object], .everyField option])]]

end ProjectSchema

end PipelineOverride
