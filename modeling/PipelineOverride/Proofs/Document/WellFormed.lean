import PipelineOverride.Project.Definition
import PipelineOverride.Proofs.Document.Distinct
import PipelineOverride.Proofs.Report

/-!
# Well-formed documents

A document is well formed if no mapping inside it has a key twice. The type allows repeated keys;
no reader gives them, and what is read off a well-formed document is well formed.
-/

set_option autoImplicit false

namespace PipelineOverride

/-- All mappings of a document have distinct keys. -/
inductive Document.WellFormed : Document → Prop where
  | scalar {value : Scalar} : WellFormed (.scalar value)
  | set {members : List Scalar} : WellFormed (.set members)
  | list {items : List Document} : (∀ item ∈ items, WellFormed item) → WellFormed (.list items)
  | mapping {fields : Table Document} : fields.Distinct →
      (∀ field ∈ fields, WellFormed field.2) → WellFormed (.mapping fields)

mutual

/-- Whether all mappings of a document have distinct keys. -/
def Document.isWellFormed : Document → Bool
  | .scalar _ => true
  | .set _ => true
  | .list items => itemsWellFormed items
  | .mapping fields => decide (Table.Distinct fields) && fieldsWellFormed fields

def itemsWellFormed : List Document → Bool
  | [] => true
  | item :: rest => item.isWellFormed && itemsWellFormed rest

def fieldsWellFormed : List (Scalar × Document) → Bool
  | [] => true
  | (_, value) :: rest => value.isWellFormed && fieldsWellFormed rest

end

mutual

theorem Document.isWellFormed_iff : (document : Document) →
    (document.isWellFormed = true ↔ document.WellFormed)
  | .scalar _ => iff_of_true rfl .scalar
  | .set _ => iff_of_true rfl .set
  | .list items => by
      rw [Document.isWellFormed, itemsWellFormed_iff items]
      constructor
      · exact .list
      · intro wellFormed
        cases wellFormed with
        | list each => exact each
  | .mapping fields => by
      rw [Document.isWellFormed, Bool.and_eq_true, decide_eq_true_iff,
        fieldsWellFormed_iff fields]
      constructor
      · intro given
        exact .mapping given.1 given.2
      · intro wellFormed
        cases wellFormed with
        | mapping distinct each => exact ⟨distinct, each⟩

theorem itemsWellFormed_iff : (items : List Document) →
    (itemsWellFormed items = true ↔ ∀ item ∈ items, item.WellFormed)
  | [] => by simp [itemsWellFormed]
  | item :: rest => by
      rw [itemsWellFormed, Bool.and_eq_true, item.isWellFormed_iff, itemsWellFormed_iff rest,
        List.forall_mem_cons]

theorem fieldsWellFormed_iff : (fields : List (Scalar × Document)) →
    (fieldsWellFormed fields = true ↔ ∀ field ∈ fields, field.2.WellFormed)
  | [] => by simp [fieldsWellFormed]
  | (_, value) :: rest => by
      rw [fieldsWellFormed, Bool.and_eq_true, value.isWellFormed_iff, fieldsWellFormed_iff rest,
        List.forall_mem_cons]

end

instance Document.decidableWellFormed (document : Document) : Decidable document.WellFormed :=
  decidable_of_iff _ document.isWellFormed_iff

namespace Document.WellFormed

variable {document : Document} {fields : Table Document}

theorem of_mapping (wellFormed : (Document.mapping fields).WellFormed) :
    fields.Distinct ∧ ∀ field ∈ fields, field.2.WellFormed := by
  cases wellFormed with
  | mapping distinct each => exact ⟨distinct, each⟩

theorem of_fields (wellFormed : document.WellFormed) (read : document.fields = .ok fields) :
    ∀ field ∈ fields, field.2.WellFormed := by
  cases wellFormed with
  | mapping _ each =>
      cases read
      exact each
  | scalar => cases read
  | set => cases read
  | list _ => cases read

theorem of_elements {elements : List Document} (wellFormed : document.WellFormed)
    (walked : document.elements = .ok elements) : ∀ element ∈ elements, element.WellFormed := by
  intro element member
  cases wellFormed with
  | list each =>
      cases walked
      exact each element member
  | set =>
      cases walked
      obtain ⟨value, _, rfl⟩ := List.mem_map.1 member
      exact .scalar
  | mapping _ _ =>
      cases walked
      obtain ⟨field, _, rfl⟩ := List.mem_map.1 member
      exact .scalar
  | @scalar value =>
      cases value <;> cases walked <;> obtain ⟨part, _, rfl⟩ := List.mem_map.1 member
      · exact .scalar
      · exact .scalar

theorem of_getD (each : ∀ field ∈ fields, field.2.WellFormed) (name : String)
    {default : Document} (otherwise : default.WellFormed) :
    (fields.getD name default).WellFormed := by
  rw [Table.getD]
  cases found : fields.get? name with
  | none => exact otherwise
  | some value => exact Table.of_lookup each found

theorem of_given? (each : ∀ field ∈ fields, field.2.WellFormed) {name : String}
    (given : fields.given? name = some document) : document.WellFormed := by
  have value := of_getD each name (.scalar : Document.null.WellFormed)
  rw [Table.given?, Document.given?] at given
  split at given
  · cases given
  · cases given
    exact value

end Document.WellFormed

/-!
## JSON values
-/

/-- A key that is the same as a text is that text. -/
theorem Scalar.eq_text_of_same {id : Scalar} {name : String}
    (same : (Scalar.text name).same id = true) : id = .text name := by
  have identity : Scalar.text name = id.identity := of_decide_eq_true same
  cases id with
  | text other => exact identity.symm
  | float value =>
      rw [Scalar.identity] at identity
      split at identity <;> cases identity
  | null => cases identity
  | bool _ => cases identity
  | int _ => cases identity
  | moment _ => cases identity
  | bytes _ => cases identity

/-- A document that JSON text can denote: the keys of its mappings are distinct texts. -/
inductive Document.IsJson : Document → Prop where
  | null : IsJson .null
  | bool {value : Bool} : IsJson (.bool value)
  | int {value : Int} : IsJson (.int value)
  | float {value : Decimal.Binary64} : IsJson (.float value)
  | text {value : String} : IsJson (.text value)
  | list {items : List Document} : (∀ item ∈ items, IsJson item) → IsJson (.list items)
  | object {fields : Table Document} : fields.Distinct →
      (∀ field ∈ fields, ∃ name, field.1 = .text name) → (∀ field ∈ fields, IsJson field.2) →
      IsJson (.mapping fields)

theorem Document.IsJson.wellFormed {document : Document} (json : document.IsJson) :
    document.WellFormed := by
  induction json with
  | null | bool | int | float | text => exact .scalar
  | list _ ih => exact .list ih
  | object distinct _ _ ih => exact .mapping distinct ih

/-!
## Projects
-/

theorem Task.ofDocument_wellFormed {document : Document} {task : Task}
    (wellFormed : document.WellFormed) (read : Task.ofDocument document = .ok task) :
    ∀ base, task.override = some base → base.WellFormed := by
  rw [Task.ofDocument, Except.bind_eq_ok_iff] at read
  obtain ⟨fields, readFields, read⟩ := read
  simp only at read
  split at read
  · cases read
  · simp only [Except.bind_eq_ok_iff] at read
    obtain ⟨_, _, _, _, _, _, _, _, ends⟩ := read
    cases ends
    intro base given
    exact .of_given? (wellFormed.of_fields readFields) given

/-- The overrides of the tasks that are read from a well-formed document are well formed. -/
theorem Project.ofDocument_wellFormed {document : Document} {project : Project}
    (wellFormed : document.WellFormed) (read : Project.ofDocument document = .ok project) :
    ∀ task ∈ project.tasks, ∀ base, task.override = some base → base.WellFormed := by
  simp only [Project.ofDocument, Except.bind_eq_ok_iff] at read
  obtain ⟨fields, readFields, elements, walked, tasks, readTasks, _, _, _, _, ends⟩ := read
  cases ends
  intro task member
  have declared : (fields.getD "task" (.list [])).WellFormed :=
    .of_getD (wellFormed.of_fields readFields) "task" (.list fun _ none => by cases none)
  obtain ⟨source, sourceMember, readTask⟩ := Except.exists_mem_of_mapM_ok readTasks member
  exact Task.ofDocument_wellFormed (declared.of_elements walked source sourceMember) readTask

end PipelineOverride
