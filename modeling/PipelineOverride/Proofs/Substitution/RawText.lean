import PipelineOverride.Override.Resolution
import PipelineOverride.Proofs.Document.Distinct
import PipelineOverride.Proofs.Substitution.Failure

/-!
# Raw values that are texts

What a user enters for a slot reaches substitution as a text, whatever was given in the selections:
reading them turns every value into a text, and the defaults of slots are texts.
-/

set_option autoImplicit false

namespace PipelineOverride

/-- All values of a table are texts. -/
def TextValues (values : Table Document) : Prop :=
  ∀ entry ∈ values, entry.2.IsText

/-- The values that a store holds for input options are texts. -/
def SelectionStore.TextValues (store : SelectionStore) : Prop :=
  ∀ entry ∈ store, ∀ values, entry.2 = .input values → PipelineOverride.TextValues values

theorem Form.defaultValues_texts (form : Form) : TextValues form.defaultValues := by
  have given : ∀ entry ∈ form.slots.map fun slot => (Scalar.text slot.name,
      Document.text slot.default), entry.2.IsText := by
    intro entry member
    obtain ⟨slot, _, rfl⟩ := List.mem_map.1 member
    exact ⟨slot.default, rfl⟩
  exact Table.forall_ofEntries given

theorem OptionValue.ofFields?_texts {fields values : Table Document}
    (read : OptionValue.ofFields? fields = some (.input values)) : TextValues values := by
  simp only [OptionValue.ofFields?] at read
  split at read
  · cases read
  · split at read <;> cases read
  · cases read
  · split at read
    · cases read
    · rename_i given _
      cases read
      have texts : ∀ entry ∈ given.map fun entry => (Scalar.text entry.1.display,
          Document.text (if entry.2.isNull then "" else entry.2.display)), entry.2.IsText := by
        intro entry member
        obtain ⟨field, _, rfl⟩ := List.mem_map.1 member
        exact ⟨_, rfl⟩
      exact Table.forall_ofEntries texts

theorem SelectionStore.ofFields_texts (fields : List (Scalar × Document)) :
    (SelectionStore.ofFields fields).2.TextValues := by
  induction fields with
  | nil => exact fun _ member => (List.not_mem_nil member).elim
  | cons field rest ih =>
      obtain ⟨id, document⟩ := field
      simp only [SelectionStore.ofFields]
      split
      · rename_i value read
        intro entry given values isInput
        rcases given with _ | ⟨_, member⟩
        · cases isInput
          obtain ⟨fields, _, readFields⟩ := Option.bind_eq_some_iff.1 read
          exact OptionValue.ofFields?_texts readFields
        · exact ih entry member values isInput
      · exact ih

theorem SelectionStore.ofDocument_texts {document : Document} {store : SelectionStore}
    (read : (SelectionStore.ofDocument document).outcome = .ok store) : store.TextValues := by
  simp only [SelectionStore.ofDocument] at read
  split at read
  · cases read
    exact fun _ member => (List.not_mem_nil member).elim
  · split at read
    · cases read
      exact SelectionStore.ofFields_texts _
    · cases read
      exact fun _ member => (List.not_mem_nil member).elim

/-- The values of a selected task that was read from a document are texts. -/
theorem SelectedTask.ofDocument_texts {document : Document} {selected : SelectedTask}
    (read : (SelectedTask.ofDocument document).outcome = .ok selected) :
    selected.values.TextValues := by
  simp only [SelectedTask.ofDocument, Report.outcome_bind, Report.outcome_ofExcept,
    Except.bind_eq_ok_iff] at read
  obtain ⟨fields, _, read⟩ := read
  split at read
  · cases read
  · rw [Report.outcome_bind, Except.bind_eq_ok_iff] at read
    obtain ⟨store, readStore, ends⟩ := read
    cases ends
    exact SelectionStore.ofDocument_texts readStore

theorem Slot.rawValue_text {values : Table Document} (texts : TextValues values) (slot : Slot) :
    ∃ raw, slot.rawValue values = .text raw := by
  have entered : ∃ raw, (if ((values.get? slot.name).getD .null).isNull then
      Document.text slot.default else (values.get? slot.name).getD .null) = .text raw := by
    cases found : values.get? slot.name with
    | none => exact ⟨slot.default, rfl⟩
    | some value =>
        obtain ⟨raw, rfl⟩ : value.IsText := Table.of_lookup texts found
        exact ⟨raw, rfl⟩
  obtain ⟨raw, isText⟩ := entered
  rw [Slot.rawValue, isText, orIfVoid_text]
  exact ⟨_, rfl⟩

theorem rawValues_texts {values : Table Document} (texts : TextValues values)
    (slots : List Slot) : RawTexts (rawValues slots values) := by
  intro entry member
  obtain ⟨slot, _, rfl⟩ := List.mem_map.1 member
  exact slot.rawValue_text texts

/-- What is entered for the slots of an option has whatever texts have and the stored values have:
an untouched option has the default texts of its slots. -/
theorem effectiveValue_forall {holds : Document → Prop} {selections : SelectionStore}
    (texts : ∀ s, holds (.text s))
    (stored : ∀ entry ∈ selections, ∀ values, entry.2 = .input values →
      ∀ field ∈ values, holds field.2)
    {id : Scalar} {definition : OptionDefinition} {values : Table Document}
    (entered : effectiveValue selections id definition = .input values) :
    ∀ field ∈ values, holds field.2 := by
  rw [effectiveValue] at entered
  cases found : selections.lookup id with
  | none =>
      rw [found, Option.getD_none] at entered
      cases definition with
      | input form =>
          cases entered
          intro field member
          obtain ⟨s, isText⟩ := form.defaultValues_texts field member
          rw [isText]
          exact texts s
      | select choice => cases entered
      | switch choice => cases entered
  | some value =>
      rw [found, Option.getD_some] at entered
      obtain ⟨key, member, _⟩ := Table.mem_of_lookup found
      exact stored (key, value) member values entered

theorem effectiveValue_texts {selections : SelectionStore} (texts : selections.TextValues)
    {id : Scalar} {definition : OptionDefinition} {values : Table Document}
    (entered : effectiveValue selections id definition = .input values) : TextValues values :=
  effectiveValue_forall (fun s => ⟨s, rfl⟩) texts entered

end PipelineOverride
