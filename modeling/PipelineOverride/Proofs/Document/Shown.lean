import PipelineOverride.Proofs.Document.Distinct
import PipelineOverride.Proofs.Report
import PipelineOverride.Validation.Schema

/-!
# What can be shown

Showing a value fails only on an integer of too many digits. Whatever a check or a reader takes from
a document of which every part can be shown can be shown as well, the issues of its violations
included.
-/

set_option autoImplicit false

namespace PipelineOverride

/-!
## Values
-/

theorem Scalar.shown_returns (value : Scalar) : ReturnsIf value.shown (value.isShown = true) :=
  .guarded value.display .badValue

/-- The value of a byte has few digits. -/
theorem Scalar.isShown_byte (byte : UInt8) : (Scalar.int byte.toNat).isShown = true := by
  have digits {most : Nat} (many : 3 ≤ most) : 256 ≤ Nat.pow 10 most :=
    Nat.le_trans (show 256 ≤ 10 ^ 3 by decide) (Nat.pow_le_pow_right (by decide) many)
  rw [isShown, Int.natAbs_natCast]
  exact decide_eq_true (Nat.lt_of_lt_of_le byte.toNat_lt (digits (by decide)))

theorem Scalar.shown_of {value : Scalar} (isShown : value.isShown = true) :
    value.shown = .ok value.display :=
  if_pos isShown

namespace Document

variable {document : Document}

@[simp] theorem shown_text (s : String) : (text s).shown = .ok s := rfl

theorem shown_returns (document : Document) : ReturnsIf document.shown (document.isShown = true) :=
  .guarded document.display .badValue

theorem shownLiteral_returns (document : Document) :
    ReturnsIf document.shownLiteral (document.isShown = true) :=
  .guarded document.literal .badValue

/-!
## Parts
-/

theorem isShown_list {items : List Document} :
    (list items).isShown = true ↔ ∀ item ∈ items, item.isShown = true := by
  rw [isShown]
  induction items with
  | nil => simp [itemsShown]
  | cons item rest ih => simp [itemsShown, ih]

theorem isShown_mapping {fields : Table Document} : (mapping fields).isShown = true ↔
    ∀ field ∈ fields, field.1.isShown = true ∧ field.2.isShown = true := by
  rw [isShown]
  induction fields with
  | nil => simp [fieldsShown]
  | cons field rest ih => simp [fieldsShown, ih]

theorem isShown_get? {fields : Table Document} {name : String}
    (shown : (mapping fields).isShown = true) (found : fields.get? name = some document) :
    document.isShown = true := by
  obtain ⟨key, member, _⟩ := Table.mem_of_lookup found
  exact (isShown_mapping.1 shown _ member).2

theorem isShown_getD {fields : Table Document} (shown : (mapping fields).isShown = true)
    (name : String) {default : Document} (shownDefault : default.isShown = true) :
    (fields.getD name default).isShown = true := by
  rw [Table.getD]
  cases found : fields.get? name with
  | none => exact shownDefault
  | some document => exact isShown_get? shown found

theorem isShown_orIfVoid {other : Document} (shown : document.isShown = true)
    (shownOther : other.isShown = true) : (document.orIfVoid other).isShown = true := by
  rw [orIfVoid]
  split
  · exact shownOther
  · exact shown

theorem isShown_elements {elements : List Document} (shown : document.isShown = true)
    (walked : document.elements = .ok elements) : ∀ element ∈ elements, element.isShown = true := by
  intro element member
  cases document with
  | list items =>
      cases walked
      exact isShown_list.1 shown element member
  | set members =>
      cases walked
      obtain ⟨value, isMember, rfl⟩ := List.mem_map.1 member
      exact List.all_eq_true.1 shown value isMember
  | mapping fields =>
      cases walked
      obtain ⟨field, isField, rfl⟩ := List.mem_map.1 member
      exact (isShown_mapping.1 shown field isField).1
  | scalar value =>
      cases value with
      | text s =>
          cases walked
          obtain ⟨c, _, rfl⟩ := List.mem_map.1 member
          rfl
      | bytes data =>
          cases walked
          obtain ⟨byte, _, rfl⟩ := List.mem_map.1 member
          exact Scalar.isShown_byte byte
      | _ => cases walked

theorem isShown_scalar? {key : Scalar} (shown : document.isShown = true)
    (isKey : document.scalar? = some key) : key.isShown = true := by
  cases document with
  | scalar value =>
      cases isKey
      exact shown
  | _ => cases isKey

theorem isShown_of_fields? {fields : Table Document} (shown : document.isShown = true)
    (isMapping : document.fields? = some fields) : (mapping fields).isShown = true := by
  cases document with
  | mapping _ =>
      cases isMapping
      exact shown
  | _ => cases isMapping

end Document

/-!
## Violations
-/

/-- A step can be shown. -/
def PathStep.Shown : PathStep → Prop
  | .key name => name.isShown = true
  | .index _ => True

/-- A violation can be worded with its path. -/
structure Violation.Shown (violation : Violation) : Prop where
  value : (∃ name, violation.complaint = .missing name) ∨ violation.value.isShown = true
  path : ∀ step ∈ violation.path, step.Shown

theorem PathStep.shown_returns (step : PathStep) : ReturnsIf step.shown step.Shown := by
  cases step with
  | key name => exact name.shown_returns
  | index position => exact .ok _ trivial

theorem Violation.message_returns (violation : Violation) : ReturnsIf violation.message
    ((∃ name, violation.complaint = .missing name) ∨ violation.value.isShown = true) := by
  obtain ⟨path, complaint, value⟩ := violation
  rw [message]
  cases complaint with
  | missing name => exact .ok _ (.inl ⟨name, rfl⟩)
  | _ => exact ((value.shownLiteral_returns).map _).congr (by simp)

theorem Violation.issue_returns (violation : Violation) :
    ReturnsIf violation.issue violation.Shown := by
  refine (violation.message_returns.and fun _ _ => (ReturnsIf.mapM fun step _ =>
    PathStep.shown_returns step).map _).congr ?_
  exact ⟨fun given => ⟨given.1, given.2⟩, fun given => ⟨given.value, given.path⟩⟩

theorem keySteps_shown {name : Scalar} (shown : name.isShown = true) :
    ∀ step ∈ keySteps name, step.Shown := by
  rw [keySteps.eq_def]
  split
  · exact fun _ member => (List.not_mem_nil member).elim
  · exact List.forall_mem_singleton.2 shown

namespace Schema

theorem issues_returns (shape : Schema) (document : Document) :
    ReturnsIf (shape.issues document)
      (∀ violation ∈ shape.check [] document, violation.Shown) :=
  (ReturnsIf.mapM fun violation _ => violation.issue_returns).map _

mutual

/-- The violations of a document that can be shown can be shown. -/
theorem check_shown {path : List PathStep} {document : Document}
    (shownPath : ∀ step ∈ path, step.Shown) (shown : document.isShown = true) :
    ∀ shape : Schema, ∀ violation ∈ check path document shape, violation.Shown
  | .kinds allowed, violation, member => by
      rw [check] at member
      split at member
      · cases member
      · exact List.mem_singleton.1 member ▸ ⟨.inr shown, shownPath⟩
  | .fields shapes, violation, member => by
      rw [check] at member
      split at member
      · rename_i table isMapping
        exact checkFields_shown shownPath (Document.isShown_of_fields? shown isMapping) shapes
          violation member
      · cases member
  | .everyField shape, violation, member => by
      rw [check] at member
      split at member
      · rename_i table isMapping
        obtain ⟨field, isField, member⟩ := List.mem_flatMap.1 member
        obtain ⟨shownKey, shownValue⟩ := Document.isShown_mapping.1
          (Document.isShown_of_fields? shown isMapping) field isField
        have shownSteps := List.forall_mem_append.2 ⟨shownPath, keySteps_shown shownKey⟩
        exact check_shown shownSteps shownValue shape violation member
      · cases member
  | .items shape, violation, member => by
      rw [check.eq_def] at member
      dsimp only at member
      split at member
      · rename_i members
        obtain ⟨item, isItem, member⟩ := List.mem_flatMap.1 member
        have shownItem := Document.isShown_list.1 shown item.1 (List.fst_mem_of_mem_zipIdx isItem)
        have shownSteps : ∀ step ∈ path ++ [.index item.2], step.Shown :=
          List.forall_mem_append.2 ⟨shownPath, List.forall_mem_singleton.2 trivial⟩
        exact check_shown shownSteps shownItem shape violation member
      · cases member
  | .required names, violation, member => by
      rw [check] at member
      split at member
      · obtain ⟨name, _, rfl⟩ := List.mem_map.1 member
        exact ⟨.inl ⟨name, rfl⟩, shownPath⟩
      · cases member
  | .nonEmpty, violation, member => by
      rw [check] at member
      split at member
      · exact List.mem_singleton.1 member ▸ ⟨.inr shown, shownPath⟩
      · cases member
  | .oneOf texts, violation, member => by
      rw [check] at member
      split at member
      · cases member
      · exact List.mem_singleton.1 member ▸ ⟨.inr shown, shownPath⟩
  | .requiredAny names, violation, member => by
      rw [check] at member
      split at member
      · split at member
        · cases member
        · exact List.mem_singleton.1 member ▸ ⟨.inr shown, shownPath⟩
      · cases member
  | .all shapes, violation, member => by
      rw [check] at member
      exact checkAll_shown shownPath shown shapes violation member

theorem checkFields_shown {path : List PathStep} {table : Table Document}
    (shownPath : ∀ step ∈ path, step.Shown)
    (shown : (Document.mapping table).isShown = true) :
    ∀ shapes : List (String × Schema), ∀ violation ∈ checkFields path table shapes, violation.Shown
  | [], violation, member => by
      rw [checkFields] at member
      cases member
  | (name, shape) :: rest, violation, member => by
      rw [checkFields] at member
      rcases List.mem_append.1 member with member | member
      · split at member
        · rename_i value found
          have shownSteps : ∀ step ∈ path ++ [.key (.text name)], step.Shown :=
            List.forall_mem_append.2 ⟨shownPath, List.forall_mem_singleton.2 rfl⟩
          exact check_shown shownSteps (Document.isShown_get? shown found) shape violation member
        · cases member
      · exact checkFields_shown shownPath shown rest violation member

theorem checkAll_shown {path : List PathStep} {document : Document}
    (shownPath : ∀ step ∈ path, step.Shown) (shown : document.isShown = true) :
    ∀ shapes : List Schema, ∀ violation ∈ checkAll path document shapes, violation.Shown
  | [], violation, member => by
      rw [checkAll] at member
      cases member
  | shape :: rest, violation, member => by
      rw [checkAll] at member
      rcases List.mem_append.1 member with member | member
      · exact check_shown shownPath shown shape violation member
      · exact checkAll_shown shownPath shown rest violation member

end

end Schema

end PipelineOverride
