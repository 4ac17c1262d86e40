import PipelineOverride.Override.Substitution
import PipelineOverride.Proofs.Report

/-!
# Failing substitutions

Where the raw values of slots are texts, only a leaf that is a whole placeholder can fail: keys and
longer texts never do. A substitution fails with the failure of the first leaf that fails, in the
order of the document. There are two such failures, and which of them a value gives is decided by
what it writes as JSON.
-/

set_option autoImplicit false

namespace PipelineOverride

namespace Document

mutual

/-- The texts of a document that are not keys, in order. -/
def leaves : Document → List String
  | .scalar (.text s) => [s]
  | .scalar _ => []
  | .set _ => []
  | .list items => leavesOfItems items
  | .mapping fields => leavesOfFields fields

def leavesOfItems : List Document → List String
  | [] => []
  | item :: rest => item.leaves ++ leavesOfItems rest

def leavesOfFields : List (Scalar × Document) → List String
  | [] => []
  | (_, value) :: rest => value.leaves ++ leavesOfFields rest

end

end Document

/-- The failure of an outcome that is one. -/
def failure? {α : Type} : Except Failure α → Option Failure
  | .error failure => some failure
  | .ok _ => none

/-- The failure of a leaf, which must be the placeholder of a slot whose value does not fit. -/
def leafFailure? (slots : List (Slot × Document)) (s : String) : Option Failure :=
  (wholeSlot? slots s).bind fun entry => failure? (coerce entry.2 entry.1.type entry.1.name)

/-- Whether a document is a text. -/
def Document.IsText (document : Document) : Prop :=
  ∃ raw, document = .text raw

/-- All raw values are texts. -/
def RawTexts (slots : List (Slot × Document)) : Prop :=
  ∀ entry ∈ slots, entry.2.IsText

/-- The text that stands for a raw text inside a longer one. -/
def SlotType.form (type : SlotType) (raw : String) : String :=
  match type with
  | .int => if raw.isEmpty then "0" else raw
  | .bool => if trueTexts.contains (Text.lower raw) then "true" else "false"
  | .string => raw

variable {α β : Type} {slots : List (Slot × Document)} {raw name : String} {type : SlotType}

@[simp] theorem failure?_ok (value : α) : failure? (.ok value) = none := rfl

@[simp] theorem failure?_error (failure : Failure) :
    failure? (.error failure : Except Failure α) = some failure := rfl

theorem failure?_eq_none_iff {outcome : Except Failure α} :
    failure? outcome = none ↔ ∃ value, outcome = .ok value := by
  cases outcome <;> simp

theorem failure?_eq_some_iff {outcome : Except Failure α} {failure : Failure} :
    failure? outcome = some failure ↔ outcome = .error failure := by
  cases outcome <;> simp

@[simp] theorem failure?_map (outcome : Except Failure α) (f : α → β) :
    failure? (outcome.map f) = failure? outcome := by
  cases outcome <;> rfl

/-- Of two parts the first failure counts, if the second part fails alike after any success. -/
theorem failure?_bind {outcome : Except Failure α} {next : α → Except Failure β}
    {later : Option Failure} (alike : ∀ value, failure? (next value) = later) :
    failure? (outcome >>= next) = (failure? outcome).or later := by
  cases outcome with
  | error failure => rfl
  | ok value => exact alike value

/-!
## Texts never fail
-/

theorem isVoid_text_of_ne (nonempty : raw ≠ "") : (Document.text raw).isVoid = false := by
  simpa [Document.isVoid] using nonempty

theorem orIfVoid_text (other : String) :
    (Document.text raw).orIfVoid (.text other)
      = .text (if raw.isEmpty then other else raw) := by
  rw [Document.orIfVoid, Document.isVoid]
  split <;> rfl

theorem coerceBool_text (raw : String) :
    coerceBool (.text raw) = .ok (trueTexts.contains (Text.lower raw)) := by
  rw [coerceBool, orIfVoid_text]
  by_cases empty : raw.isEmpty
  · rw [String.isEmpty_iff.1 empty]
    rfl
  · rw [if_neg empty]

theorem textForm_text (raw : String) (type : SlotType) :
    textForm (.text raw) type = .ok (type.form raw) := by
  cases type with
  | int => rw [textForm, orIfVoid_text]; rfl
  | bool => rw [textForm, coerceBool_text]; rfl
  | string => rfl

theorem substituteText_succeeds (texts : RawTexts slots) (cs : List Char) :
    failure? (substituteText slots cs) = none := by
  induction slots generalizing cs with
  | nil => rfl
  | cons entry rest ih =>
      obtain ⟨slot, value⟩ := entry
      obtain ⟨raw, rfl⟩ : value.IsText := texts (slot, value) (.head _)
      have restTexts : RawTexts rest := fun entry member => texts entry (.tail _ member)
      simp only [substituteText, textForm_text, Except.ok_bind]
      split
      · exact ih restTexts _
      · exact ih restTexts _

theorem substituteKey_succeeds (texts : RawTexts slots) (key : Scalar) :
    failure? (substituteKey slots key) = none := by
  cases key with
  | text s => rw [substituteKey, failure?_map, substituteText_succeeds texts]
  | _ => rfl

theorem substituteLeaf_failure? (texts : RawTexts slots) (s : String) :
    failure? (substituteLeaf slots s) = leafFailure? slots s := by
  rw [substituteLeaf, leafFailure?]
  cases wholeSlot? slots s with
  | none => rw [failure?_map, substituteText_succeeds texts]; rfl
  | some entry => rfl

/-!
## The first failing leaf
-/

mutual

/-- A substitution fails like the first leaf that fails. -/
theorem substitute_failure? (texts : RawTexts slots) :
    ∀ document : Document, failure? (substitute slots document)
      = document.leaves.findSome? (leafFailure? slots)
  | .scalar (.text s) => by
      rw [substitute, Document.leaves, substituteLeaf_failure? texts]
      cases found : leafFailure? slots s <;> simp [found]
  | .scalar .null => by simp [substitute, Document.leaves]
  | .scalar (.bool _) => by simp [substitute, Document.leaves]
  | .scalar (.int _) => by simp [substitute, Document.leaves]
  | .scalar (.float _) => by simp [substitute, Document.leaves]
  | .scalar (.moment _) => by simp [substitute, Document.leaves]
  | .scalar (.bytes _) => by simp [substitute, Document.leaves]
  | .set _ => by simp [substitute, Document.leaves]
  | .list items => by
      rw [substitute, Document.leaves, failure?_map]
      exact substituteItems_failure? texts items
  | .mapping fields => by
      rw [substitute, Document.leaves, failure?_map]
      exact substituteFields_failure? texts fields

theorem substituteItems_failure? (texts : RawTexts slots) :
    ∀ items : List Document, failure? (substituteItems slots items)
      = (Document.leavesOfItems items).findSome? (leafFailure? slots)
  | [] => rfl
  | item :: rest => by
      rw [substituteItems, Document.leavesOfItems, List.findSome?_append,
        ← substitute_failure? texts item, ← substituteItems_failure? texts rest]
      refine failure?_bind fun value => ?_
      cases substituteItems slots rest <;> rfl

theorem substituteFields_failure? (texts : RawTexts slots) :
    ∀ fields : List (Scalar × Document), failure? (substituteFields slots fields)
      = (Document.leavesOfFields fields).findSome? (leafFailure? slots)
  | [] => rfl
  | (key, value) :: rest => by
      obtain ⟨newKey, keySucceeds⟩ := failure?_eq_none_iff.1 (substituteKey_succeeds texts key)
      rw [substituteFields, keySucceeds, Except.ok_bind, Document.leavesOfFields,
        List.findSome?_append, ← substitute_failure? texts value,
        ← substituteFields_failure? texts rest]
      refine failure?_bind fun newValue => ?_
      cases substituteFields slots rest <;> rfl

end

/-!
## Values that do not fit
-/

/-- An integer slot overflows if its value writes an integer beyond the range of floating-point
numbers. -/
def Slot.Overflows (slot : Slot) (raw : String) : Prop :=
  slot.type = .int ∧
    ∃ n, Json.read? Json.strict raw = some (.int n) ∧ Decimal.Binary64.overflows n = true

theorem read?_zero : Json.read? Json.strict "0" = some (.int 0) := rfl

theorem read?_empty : Json.read? Json.strict "" = none := rfl

theorem coerce_int_text (raw name : String) :
    coerce (.text raw) .int name = readNumber? (SlotType.int.form raw) >>= fun number =>
      match number with
      | some number => .ok number
      | none => .error (.slot ⟨name, raw, .int⟩) := by
  rw [coerce, orIfVoid_text]
  rfl

theorem readNumber?_failure?_iff {s : String} {failure : Failure} :
    failure? (readNumber? s) = some failure ↔ failure = .tooLarge
      ∧ ∃ n, Json.read? Json.strict s = some (.int n) ∧ Decimal.Binary64.overflows n = true := by
  rw [readNumber?]
  split
  · rename_i n written
    by_cases large : Decimal.Binary64.overflows n = true
    · rw [if_pos large, failure?_error, Option.some.injEq]
      exact ⟨fun same => ⟨same.symm, n, written, large⟩, fun same => same.1.symm⟩
    · rw [if_neg large]
      refine ⟨fun fails => (nomatch fails), ?_⟩
      intro given
      obtain ⟨_, n', written', large'⟩ := given
      cases written.symm.trans written'
      exact absurd large' large
  · rename_i number written
    refine ⟨fun fails => (nomatch fails), ?_⟩
    intro given
    obtain ⟨_, n, written', _⟩ := given
    cases written.symm.trans written'
  · rename_i notInt _
    refine ⟨fun fails => (nomatch fails), ?_⟩
    intro given
    obtain ⟨_, n, written, _⟩ := given
    exact absurd written (notInt n)

theorem not_overflows_zero : Decimal.Binary64.overflows 0 = false := by
  decide +kernel

theorem slot_overflows_iff {slot : Slot} : slot.Overflows raw ↔ slot.type = .int
    ∧ failure? (readNumber? (SlotType.int.form raw)) = some .tooLarge := by
  refine and_congr_right fun _ => ?_
  rw [readNumber?_failure?_iff, SlotType.form]
  by_cases empty : raw.isEmpty
  · rw [if_pos empty, String.isEmpty_iff.1 empty, read?_empty, read?_zero]
    constructor
    · intro given
      obtain ⟨_, written, _⟩ := given
      cases written
    · intro given
      obtain ⟨_, n, written, large⟩ := given
      cases written
      rw [not_overflows_zero] at large
      cases large
  · rw [if_neg empty]
    exact (and_iff_right rfl).symm

/-- A value that does not fit its slot either is an integer out of range or gives a slot error. -/
theorem coerce_failure?_cases {slot : Slot} {failure : Failure}
    (fails : failure? (coerce (.text raw) slot.type name) = some failure) :
    slot.Overflows raw ∧ failure = .tooLarge
      ∨ ¬ slot.Overflows raw ∧ ∃ error, failure = .slot error := by
  cases type : slot.type with
  | string => rw [type] at fails; cases fails
  | bool =>
      rw [type, coerce, failure?_map, coerceBool_text] at fails
      cases fails
  | int =>
      rw [type, coerce_int_text] at fails
      rw [slot_overflows_iff]
      cases read : readNumber? (SlotType.int.form raw) with
      | error inner =>
          rw [read] at fails
          cases fails
          obtain ⟨rfl, _⟩ := readNumber?_failure?_iff.1 (failure?_eq_some_iff.2 read)
          exact .inl ⟨⟨type, rfl⟩, rfl⟩
      | ok number =>
          rw [read, Except.ok_bind] at fails
          cases number with
          | some number => cases fails
          | none =>
              cases fails
              exact .inr ⟨by simp, _, rfl⟩

theorem coerce_failure?_tooLarge_iff {slot : Slot} :
    failure? (coerce (.text raw) slot.type name) = some .tooLarge ↔ slot.Overflows raw := by
  constructor
  · intro fails
    rcases coerce_failure?_cases fails with ⟨overflows, _⟩ | ⟨_, _, isSlot⟩
    · exact overflows
    · cases isSlot
  · intro overflows
    obtain ⟨type, fails⟩ := slot_overflows_iff.1 overflows
    rw [type, coerce_int_text, failure?_eq_some_iff.1 fails]
    rfl

end PipelineOverride
