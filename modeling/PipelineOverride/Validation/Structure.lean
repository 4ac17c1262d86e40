import PipelineOverride.Project.Definition
import PipelineOverride.Report
import PipelineOverride.Validation.Schema

/-!
# Validation of projects

A project document is checked against its shape and then for what a shape cannot say: how many
cases an option has, and that names are not given twice. An accepted document can be read as a
project, unless the resources or the controllers of a task are no lists, which is not checked, or
the version or the default of a slot is an integer that cannot be shown.
-/

set_option autoImplicit false

namespace PipelineOverride

/-- What validation found. -/
structure Findings where
  errors : List Issue
  warnings : List Issue

namespace Findings

def none : Findings := ⟨[], []⟩

def append (a b : Findings) : Findings :=
  ⟨a.errors ++ b.errors, a.warnings ++ b.warnings⟩

instance : Append Findings := ⟨append⟩

/-- One error without a value of its own. -/
def error (path message : String) : Findings := ⟨[{ path, message }], []⟩

def warning (path message : String) : Findings := ⟨[], [{ path, message }]⟩

/-- Whether the document is accepted. -/
def valid (findings : Findings) : Bool := findings.errors.isEmpty

end Findings

/-- Goes through names and tells of each whether it was there before. A name that cannot be
compared as a key is a failure, and so is a repeated one that cannot be shown. The result also holds
the distinct names, the last one first. -/
def markRepeats (seen : List Scalar) :
    List Document → Except Failure (List (Document × Bool) × List Scalar)
  | [] => .ok ([], seen)
  | name :: rest =>
    match name.scalar? with
    | none => .error .wrongKind
    | some key =>
      let repeated := seen.any fun other => other.same key
      if repeated && !key.isShown then .error .badValue
      else do
        let marked ← markRepeats (if repeated then seen else key :: seen) rest
        return ((name, repeated) :: marked.1, marked.2)

/-- The names that mappings among documents give. -/
def givenNames (documents : List Document) : List Document :=
  documents.filterMap fun document => document.fields?.map fun fields => fields.getD "name" .null

/-- What is found of the number of cases of an option. -/
def checkCaseCount (path : String) (kind : OptionKind) (count : Nat) : Findings :=
  if kind = .switch then
    if count = 2 then .none
    else .error (path ++ ".cases")
      ("switch option must have exactly 2 cases, found " ++ Decimal.natText count)
  else if count = 0 then .error (path ++ ".cases") "select option must have at least one case"
  else .none

/-- An issue for each case name that was there before. -/
def repeatedCaseNames (path : String) (marks : List (Document × Bool)) : List Issue :=
  marks.filterMap fun (name, repeated) =>
    if repeated then
      some { path := path ++ ".cases"
             message := "duplicate case name '" ++ name.display ++ "'" }
    else none

/-- What is found of the default case of an option whose cases have the given names. -/
def checkDefaultCase (path : String) (fields : Table Document) (names : List Scalar) :
    Except Failure Findings :=
  match fields.given? "default_case" with
  | none => .ok .none
  | some name =>
    match name.scalar? with
    | none => .error .wrongKind
    | some key =>
      if names.any fun other => other.same key then .ok .none
      else do
        return .warning (path ++ ".default_case")
          ("default_case '" ++ (← key.shown) ++ "' does not name a case")

def checkCases (path : String) (kind : OptionKind) (fields : Table Document) :
    Except Failure Findings := do
  let cases ← ((fields.getD "cases" .null).orIfVoid (.list [])).elements
  let marked ← markRepeats [] (givenNames cases)
  let dangling ← checkDefaultCase path fields marked.2
  return checkCaseCount path kind cases.length ++ ⟨repeatedCaseNames path marked.1, []⟩
    ++ dangling

/-- What is found of the name of a slot, which may be taken. -/
def checkSlotName (place : String) (name : Scalar) (taken : Bool) : Except Failure Findings :=
  if taken then do return .error place ("duplicate input name '" ++ (← name.shown) ++ "'")
  else .ok .none

/-- What is found of the type of a slot, which may have no meaning. -/
def checkSlotType (place : String) (fields : Table Document) : Except Failure Findings := do
  let typeName := Text.lower (← (fields.getD "pipeline_type" (.text "string")).shown)
  return if (SlotType.ofName? typeName).isSome then .none
    else ⟨[⟨place ++ ".pipeline_type", "unknown pipeline_type '" ++ typeName ++ "'",
      fields.getD "pipeline_type" .null⟩], []⟩

def checkSlot (place : String) (fields : Table Document) (name : Scalar) (taken : Bool) :
    Except Failure Findings := do
  let repeated ← checkSlotName place name taken
  let badType ← checkSlotType place fields
  return repeated ++ badType

/-- The structural findings of the slots of an input option, from an index on. -/
def checkSlotsFrom (path : String) (seen : List Scalar) :
    List (Document × Nat) → Except Failure Findings
  | [] => .ok .none
  | (document, index) :: rest =>
    match document.fields? with
    | none => checkSlotsFrom path seen rest
    | some fields =>
      match (fields.getD "name" .null).scalar? with
      | none => .error .wrongKind
      | some key => do
        let first ← checkSlot (path ++ ".inputs." ++ Decimal.natText index) fields key
          (seen.any fun other => other.same key)
        let others ← checkSlotsFrom path (key :: seen) rest
        return first ++ others

/-- The structural findings of an input option. -/
def checkSlots (path : String) (fields : Table Document) : Except Failure Findings := do
  let slots ← ((fields.getD "inputs" .null).orIfVoid (.list [])).elements
  checkSlotsFrom path [] slots.zipIdx

/-- The structural findings of an option by its kind. -/
def checkOptionFields (path : String) (fields : Table Document) : Except Failure Findings := do
  let tag := fields.getD "type" .null
  match ← OptionKind.ofTag tag with
  | none => return .error (path ++ ".type") ("unknown option type '" ++ tag.display ++ "'")
  | some .input => checkSlots path fields
  | some kind => checkCases path kind fields

def checkOption (id : Scalar) (document : Document) : Except Failure Findings := do
  let path := "option." ++ (← id.shown)
  match document.fields? with
  | none => return .error path "option must be a mapping"
  | some fields => checkOptionFields path fields

/-- The structural findings of options, one after another. -/
def checkOptions : List (Scalar × Document) → Except Failure Findings
  | [] => .ok .none
  | (id, document) :: rest => do
    let first ← checkOption id document
    let others ← checkOptions rest
    return first ++ others

def taskNameOf (document : Document) : Document :=
  match document.fields? with
  | some fields => fields.getD "name" (fields.getD "id" .null)
  | none => .null

/-- A warning for each task name that was there before. -/
def repeatedTaskNames (marks : List (Document × Bool)) : List Issue :=
  marks.zipIdx.filterMap fun ((name, repeated), index) =>
    if repeated then
      some { path := "task." ++ Decimal.natText index ++ ".name"
             message := "duplicate task name '" ++ name.display
               ++ "', first definition wins" }
    else none

/-- The structural findings of the tasks: names that are given twice. -/
def checkTasks (tasks : List Document) : Except Failure Findings := do
  let marked ← markRepeats [] (tasks.map taskNameOf)
  return ⟨[], repeatedTaskNames marked.1⟩

/-- The structural findings of what a project document gives as its options. -/
def checkOptionField (given : Document) : Except Failure Findings :=
  match given.fields? with
  | some options => checkOptions options
  | none => .ok (.error "option" "option must be a mapping")

/-- The structural findings of a project document. -/
def checkStructure (document : Document) : Except Failure Findings := do
  let fields ← document.fields
  let optionFindings ← checkOptionField ((fields.getD "option" .null).orIfVoid (.mapping []))
  let tasks ← ((fields.getD "task" .null).orIfVoid (.list [])).elements
  let taskFindings ← checkTasks tasks
  return optionFindings ++ taskFindings

/-- Validates a project document. The warnings are also given as notices. -/
def validate (document : Document) (source : String) : Report Findings := do
  let issues ← Report.ofExcept (ProjectSchema.project.issues document)
  let findings ← Report.ofExcept (checkStructure document)
  let notices := findings.warnings.map fun issue =>
    (⟨.warning, .validation, source ++ ": " ++ issue.text⟩ : Notice)
  ⟨notices, .ok ⟨issues ++ findings.errors, findings.warnings⟩⟩

/-- Fails unless a project document is accepted. -/
def ensureValid (document : Document) (source : String) : Report Unit := do
  let findings ← validate document source
  if findings.valid then return () else Report.fail (.invalid source findings.errors)

def Project.readNotice (project : Project) : Notice :=
  ⟨.debug, .types, "Parsed project '" ++ project.name.display ++ "': "
    ++ Decimal.natText project.tasks.length ++ " task(s), "
    ++ Decimal.natText project.options.length ++ " option(s)"⟩

/-- Reads a project without checking it. -/
def Project.parse (document : Document) : Report Project := do
  let project ← Report.ofExcept (Project.ofDocument document)
  Report.note project.readNotice
  return project

def Project.checked (document : Document) (source : String) : Report Project := do
  ensureValid document source
  Project.parse document

end PipelineOverride
