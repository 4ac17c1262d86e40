import PipelineOverride.Project.Definition
import PipelineOverride.Report
import PipelineOverride.Text.Blank

/-!
# Selections

What the user picked for the options of a task. A store holds the values of the options that the
user touched; every other option has the default value of its definition.
-/

set_option autoImplicit false

namespace PipelineOverride

inductive OptionValue where
  /-- The name of a case. It is a text unless it is the default of a malformed option. -/
  | select (caseName : Document)
  | switch (on : Bool)
  /-- What was entered for the slots. -/
  | input (values : Table Document)

namespace OptionValue

def kind : OptionValue → OptionKind
  | .select _ => .select
  | .switch _ => .switch
  | .input _ => .input

def literal : OptionValue → String
  | .select caseName => "SelectValue(case_name=" ++ caseName.literal ++ ")"
  | .switch on => "SwitchValue(value=" ++ (Scalar.bool on).literal ++ ")"
  | .input values => "InputValue(values=" ++ (Document.mapping values).literal ++ ")"

end OptionValue

/-- The value of an untouched choice: its default case, else its first one. -/
def Choice.defaultName (choice : Choice) : Document :=
  let declared := choice.defaultCase.getD .null
  if declared.isVoid then .text ((choice.cases.head?.map Case.name).getD "") else declared

/-- The values of untouched slots. -/
def Form.defaultValues (form : Form) : Table Document :=
  Table.ofEntries (form.slots.map fun slot => (.text slot.name, .text slot.default))

/-- The value of an untouched option. A switch is on if its default case has an on spelling. -/
def OptionDefinition.defaultValue : OptionDefinition → OptionValue
  | .select choice => .select choice.defaultName
  | .switch choice =>
    .switch (onSpellings.any fun name => (choice.defaultCase.getD .null).isText name)
  | .input form => .input form.defaultValues

/-- Whether a selection entry switches an option on. Texts are compared without blanks around them
and in lower case. -/
def switchedOn : Document → Bool
  | .text s => ["true", "1", "yes", "y"].contains (Text.lower (Text.trim s))
  | other => !other.isVoid

/-- Reads the fields of a selection entry. There is no value if the entry is malformed. Entries
come from JSON texts, so that the integers in them are short enough to be shown. -/
def OptionValue.ofFields? (fields : Table Document) : Option OptionValue :=
  let tag := fields.getD "kind" (fields.getD "type" .null)
  let kind := if tag.isNull then none else OptionKind.ofTag? tag
  match kind with
  | none => none
  | some .select =>
    let name := fields.getD "case_name" (fields.getD "caseName" (fields.getD "value" .null))
    if name.isNull then none else some (.select (.text name.display))
  | some .switch => some (.switch (switchedOn (fields.getD "value" (.bool false))))
  | some .input =>
    match (fields.getD "values" (.mapping [])).fields? with
    | none => none
    | some values =>
      some (.input (Table.ofEntries (values.map fun entry =>
        (.text entry.1.display, .text (if entry.2.isNull then "" else entry.2.display)))))

/-- Reads a selection entry, which must be a mapping. -/
def OptionValue.ofDocument (document : Document) : Except Failure (Option OptionValue) := do
  return OptionValue.ofFields? (← document.fields)

/-- The values of options by option ids. -/
abbrev SelectionStore := Table OptionValue

namespace SelectionStore

def literal (store : SelectionStore) : String :=
  "SelectionStore(\x7b"
    ++ ", ".intercalate (store.map fun entry => entry.1.literal ++ ": " ++ entry.2.literal)
    ++ "\x7d)"

/-- The value that an entry is read as, where it is a mapping and well formed. -/
def entry? (document : Document) : Option OptionValue :=
  document.fields?.bind OptionValue.ofFields?

/-- Reads entries one by one and leaves out the malformed ones. -/
def ofFields : List (Scalar × Document) → List Notice × SelectionStore
  | [] => ([], [])
  | (id, document) :: rest =>
    let (notices, store) := ofFields rest
    match entry? document with
    | some value => (notices, (id, value) :: store)
    | none =>
      (⟨.warning, .selections,
        "Ignoring malformed selection for option '" ++ id.display ++ "': " ++ document.literal⟩
          :: notices, store)

/-- Reads a store. What is no mapping is ignored as a whole. -/
def ofDocument (document : Document) : Report SelectionStore :=
  if document.isNull then .done []
  else
    match document.fields? with
    | some fields =>
      let (notices, store) := ofFields fields
      ⟨notices, .ok store⟩
    | none =>
      ⟨[⟨.warning, .selections,
        "Ignoring selections that are not a mapping: " ++ document.literal⟩], .ok []⟩

end SelectionStore

/-- A task that the user wants to run, with the values of its options. -/
structure SelectedTask where
  taskName : String
  values : SelectionStore := []
  id : String := ""
  customName : Document := .null
  enabled : Bool := true

/-- Reads a selected task. The keys may be written with underscores or in camel case. -/
def SelectedTask.ofDocument (document : Document) : Report SelectedTask := do
  let fields ← Report.ofExcept document.fields
  let name := fields.getD "task_name" (fields.getD "taskName" .null)
  if name.isVoid then Report.fail .namelessSelection
  else
    let values ← SelectionStore.ofDocument
      (fields.getD "option_values" (fields.getD "optionValues" .null))
    return {
      taskName := name.display
      values := values
      id := (fields.getD "id" noText).display
      customName := fields.getD "custom_name" (fields.getD "customName" .null)
      enabled := !(fields.getD "enabled" (.bool true)).isVoid }

end PipelineOverride
