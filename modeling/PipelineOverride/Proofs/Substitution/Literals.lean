import PipelineOverride.Proofs.Substitution.Integers
import PipelineOverride.Proofs.Substitution.Leaves

/-!
# Literals in typed slots

A declaration may give the default of a slot as an integer or a truth value, and so may a selection
entry give what was entered for it. Both are kept as texts. Filling the template reads the texts
back as the literals that they came from.
-/

set_option autoImplicit false

namespace PipelineOverride

open Json (WritesInteger)

/-- The literals of the slot types that are not texts. The integers have at most 308 digits, so
floating-point numbers reach further. -/
inductive SlotType.Literal : SlotType → Document → Prop where
  | int {n : Int} : n.natAbs < Nat.pow 10 308 → Literal .int (.int n)
  | bool {truth : Bool} : Literal .bool (.bool truth)

/-- The fields of a declaration give a slot its name and type, and those that are read as texts can
be shown. -/
structure DeclaresSlot (fields : Table Document) (name : Document) (type : SlotType) : Prop where
  shown : ∀ key ∈ ["name", "pipeline_type", "default"], ∀ value,
    fields.get? key = some value → value.isShown = true
  named : fields.get? "name" = some name
  typed : SlotType.ofName? (Text.lower (fields.getD "pipeline_type" (.text "string")).display)
    = some type

/-- A selection entry of an input option enters a value for a slot. Of the keys that are displayed
as its name the last one counts. -/
structure Enters (entry : Table Document) (name : String) (value : Document) : Prop where
  tagged : OptionKind.ofName? (Text.lower (entry.getD "kind" (entry.getD "type" .null)).display)
    = some .input
  entered : ∃ before key after,
    entry.get? "values" = some (.mapping (before ++ (key, value) :: after)) ∧
      key.display = name ∧ ∀ later ∈ after, later.1.display ≠ name

/-- A leaf is filled with a literal: alone, without ever being refused, and wherever it keeps its
place in a larger template. -/
structure FillsWith (declared : List Slot) (values : Table Document) (leaf : String)
    (literal : Document) : Prop where
  alone : fillTemplate (.text leaf) declared values = .ok literal
  accepted : ∀ failure, ¬ Refused declared values leaf failure
  placed : ∀ body result position, fillTemplate body declared values = .ok result →
    KeptAt (keyAfter (rawValues declared values)) body position (.text leaf) →
      result.place? (position.map (Document.Step.rewrite (keyAfter (rawValues declared values))))
        = some literal

variable {type : SlotType} {literal : Document} {declared : List Slot} {values : Table Document}
  {slot : Slot}

/-!
## Literals as texts
-/

/-- The text of a literal is read back as the literal. -/
theorem SlotType.Literal.coerce_display (isLiteral : type.Literal literal) (name : String) :
    coerce (.text literal.display) type name = .ok literal := by
  cases isLiteral with
  | @int n bounded =>
      have writes : WritesInteger (Document.int n).display n :=
        Json.writesInteger_intText bounded (by decide) (by decide)
      have reached : Nat.pow 10 308 ≤ Nat.pow 2 1024 - Nat.pow 2 970 := by decide +kernel
      have fits : Decimal.Binary64.overflows n = false :=
        overflows_eq_false_iff.2 (lt_of_lt_of_le bounded reached)
      rw [coerce_int_of_writes writes, fits]
      rfl
  | @bool truth =>
      have spelled : trueTexts.contains (Text.lower (Document.bool truth).display) = truth := by
        cases truth <;> decide
      rw [coerce, coerceBool_text, spelled]
      rfl

theorem SlotType.Literal.isNull (isLiteral : type.Literal literal) : literal.isNull = false := by
  cases isLiteral <;> rfl

/-!
## Raw values
-/

theorem Document.isNull_iff {document : Document} : document.isNull = true ↔ document = .null := by
  constructor
  · intro isNull
    unfold Document.isNull at isNull
    split at isNull
    · rfl
    · cases isNull
  · rintro rfl
    rfl

theorem text_orIfVoid_noText (raw : String) : (Document.text raw).orIfVoid noText = .text raw := by
  rw [noText, orIfVoid_text]
  split
  · rename_i empty
    rw [String.isEmpty_iff.1 empty]
  · rfl

theorem Slot.rawValue_untouched (untouched : ((values.get? slot.name).getD .null).isNull = true) :
    slot.rawValue values = .text slot.default := by
  rw [rawValue, untouched]
  exact text_orIfVoid_noText slot.default

theorem Slot.rawValue_entered {raw : String} (entered : values.get? slot.name = some (.text raw)) :
    slot.rawValue values = .text raw := by
  rw [rawValue, entered]
  exact text_orIfVoid_noText raw

/-- An untouched option has the default of each slot, as long as no two slots of one name have
different defaults. -/
theorem Form.get?_defaultValues {form : Form} (member : slot ∈ form.slots)
    (agree : ∀ other ∈ form.slots, other.name = slot.name → other.default = slot.default) :
    form.defaultValues.get? slot.name = some (.text slot.default) := by
  have held : ∃ entry ∈ form.slots.map fun other =>
      (Scalar.text other.name, Document.text other.default),
      entry.1.same (.text slot.name) = true :=
    ⟨_, List.mem_map_of_mem member, Scalar.same_self _⟩
  obtain ⟨before, last, after, split, same, ends⟩ := Table.exists_last held
  have isDefault : last ∈ form.slots.map fun other =>
      (Scalar.text other.name, Document.text other.default) :=
    split ▸ List.mem_append_right before (.head after)
  obtain ⟨other, otherMember, rfl⟩ := List.mem_map.1 isDefault
  rw [← agree other otherMember (Scalar.same_text.1 same)]
  exact Table.lookup_ofEntries_eq_some_iff.2 ⟨before, _, after, split, same, ends⟩

/-- An entry for a slot is read with the text of the value, unless the value is null. -/
theorem Enters.ofDocument {entry : Table Document} {name : String}
    (enters : Enters entry name literal) (given : literal.isNull = false) :
    ∃ values, OptionValue.ofDocument (.mapping entry) = .ok (some (.input values)) ∧
      values.get? name = some (.text literal.display) := by
  obtain ⟨before, key, after, isValues, rfl, last⟩ := enters.entered
  have tagged := enters.tagged
  have isTag : (entry.getD "kind" (entry.getD "type" .null)).isNull = false := by
    generalize entry.getD "kind" (entry.getD "type" .null) = tag at tagged
    cases isNull : tag.isNull with
    | false => rfl
    | true =>
        rw [Document.isNull_iff.1 isNull] at tagged
        cases tagged
  have fields : (entry.getD "values" (.mapping [])).fields?
      = some (before ++ (key, literal) :: after) := by
    rw [Table.getD, isValues]
    rfl
  rw [OptionValue.ofDocument, Document.fields, Document.fields?, Except.ok_bind,
    OptionValue.ofFields?]
  simp only [isTag, OptionKind.ofTag?, tagged, fields, Bool.false_eq_true, if_false]
  refine ⟨_, rfl, ?_⟩
  rw [List.map_append, List.map_cons, given]
  refine Table.lookup_ofEntries_of_last ?_ _
  intro later member same
  obtain ⟨field, fieldMember, rfl⟩ := List.mem_map.1 member
  exact last field fieldMember (Scalar.same_text.1 same)

/-!
## Filled leaves
-/

theorem WholePlaceholder.mem {leaf : String} (whole : WholePlaceholder declared leaf slot) :
    slot ∈ declared := by
  obtain ⟨_, earlier, later, rfl, _⟩ := whole
  exact List.mem_append_right earlier (.head later)

theorem FillsWith.of_coerce (whole : WholePlaceholder declared slot.placeholder slot)
    (coerced : coerce (slot.rawValue values) slot.type slot.name = .ok literal) :
    FillsWith declared values slot.placeholder literal := by
  have becomes : substituteLeaf (rawValues declared values) slot.placeholder = .ok literal :=
    (substituteLeaf_whole whole).trans coerced
  refine ⟨becomes, ?_, ?_⟩
  · intro failure refused
    obtain ⟨other, isWhole, fails⟩ := refused
    cases becomes.symm.trans ((substituteLeaf_whole isWhole).trans fails)
  · intro body result position filled kept
    rw [eq_rewrite_of_substitute filled, kept.placed, Document.rewrite, leafAfter_of_ok becomes]

theorem SlotType.Literal.fillsWith (isLiteral : slot.type.Literal literal)
    (whole : WholePlaceholder declared slot.placeholder slot)
    (isRaw : slot.rawValue values = .text literal.display) :
    FillsWith declared values slot.placeholder literal :=
  .of_coerce whole (isRaw ▸ isLiteral.coerce_display slot.name)

/-- A field that is read as a text has one. -/
theorem DeclaresSlot.shown_getD {fields : Table Document} {name : Document}
    (declares : DeclaresSlot fields name type) (key : String) {default : Document}
    (isRead : key ∈ ["name", "pipeline_type", "default"]) (shown : default.isShown = true) :
    (fields.getD key default).shown = .ok (fields.getD key default).display := by
  refine if_pos ?_
  rw [Table.getD]
  cases found : fields.get? key with
  | none => exact shown
  | some value => exact declares.shown key isRead value found

/-- A declaration with a name and a type is read as a slot, whatever its other fields are. -/
theorem DeclaresSlot.ofDocument {fields : Table Document} {name : Document}
    (declares : DeclaresSlot fields name type) :
    ∃ slot, Slot.ofDocument (.mapping fields) = .ok slot ∧ slot.name = name.display ∧
      slot.type = type ∧ ∀ default, fields.get? "default" = some default →
        default.isNull = false → slot.default = default.display := by
  have hasType : declaredSlotType fields = .ok type := by
    have given := declares.shown_getD "pipeline_type" (by simp)
      (rfl : (Document.text "string").isShown = true)
    simp only [declaredSlotType, given, Except.ok_bind, declares.typed]
    rfl
  have hasName : declaredName fields = .ok name.display := by
    rw [declaredName, declares.named]
    exact if_pos (declares.shown "name" (by simp) name declares.named)
  have hasDefault : declaredDefault fields = .ok (if (fields.getD "default" noText).isNull then ""
      else (fields.getD "default" noText).display) := by
    rw [declaredDefault]
    split
    · rfl
    · exact declares.shown_getD "default" (by simp) rfl
  simp only [Slot.ofDocument, Document.fields, Document.fields?, Except.ok_bind, hasType, hasName,
    hasDefault]
  refine ⟨_, rfl, rfl, rfl, ?_⟩
  intro default isDefault given
  rw [Table.getD, isDefault, Option.getD_some, given]
  rfl

/-- An integer or truth value that is given as a literal, not as a text, comes back as that literal
wherever its placeholder is a leaf of a template: as the default of a slot for which nothing is
entered, as the default of a slot of an untouched option, and as what a selection entry enters. -/
theorem typed_literals_survive {fields : Table Document} {name : Document}
    (declares : DeclaresSlot fields name type) (isLiteral : type.Literal literal) :
    ∃ slot, Slot.ofDocument (.mapping fields) = .ok slot ∧ slot.name = name.display ∧
      slot.type = type ∧ ∀ declared, WholePlaceholder declared slot.placeholder slot →
        (fields.get? "default" = some literal →
          (∀ values : Table Document, ((values.get? slot.name).getD .null).isNull = true →
            FillsWith declared values slot.placeholder literal) ∧
          ∀ form : Form, form.slots = declared →
            (∀ other ∈ declared, other.name = slot.name → other.default = slot.default) →
            FillsWith declared form.defaultValues slot.placeholder literal) ∧
        ∀ entry, Enters entry slot.name literal →
          ∃ values, OptionValue.ofDocument (.mapping entry) = .ok (some (.input values)) ∧
            FillsWith declared values slot.placeholder literal := by
  obtain ⟨slot, read, isName, rfl, defaults⟩ := declares.ofDocument
  refine ⟨slot, read, isName, rfl, fun declared whole => ⟨fun isDefault => ?_, ?_⟩⟩
  · have kept : slot.default = literal.display := defaults literal isDefault isLiteral.isNull
    constructor
    · intro values untouched
      exact isLiteral.fillsWith whole (kept ▸ Slot.rawValue_untouched untouched)
    · rintro form rfl agree
      have found := Form.get?_defaultValues whole.mem agree
      exact isLiteral.fillsWith whole (kept ▸ Slot.rawValue_entered found)
  · intro entry enters
    obtain ⟨values, readEntry, found⟩ := enters.ofDocument isLiteral.isNull
    exact ⟨values, readEntry, isLiteral.fillsWith whole (Slot.rawValue_entered found)⟩

/-- The declaration of an integer slot whose default is a number below zero. -/
def depthFields : Table Document :=
  [(.text "name", .text "depth"), (.text "pipeline_type", .text "Integer"),
    (.text "default", .int (-7))]

/-- A selection entry that gives the depth as a number. -/
def depthEntry : Table Document :=
  [(.text "kind", .text "input"), (.text "values", .object [("depth", .int (-7))])]

theorem depth_survives :
    DeclaresSlot depthFields (.text "depth") .int ∧ SlotType.int.Literal (.int (-7)) ∧
      ∃ slot values, Slot.ofDocument (.mapping depthFields) = .ok slot ∧
        OptionValue.ofDocument (.mapping depthEntry) = .ok (some (.input values)) ∧
        fillTemplate (.text "\x7bdepth\x7d") [slot] [] = .ok (.int (-7)) ∧
        fillTemplate (.text "\x7bdepth\x7d") [slot] values = .ok (.int (-7)) := by
  have declares : DeclaresSlot depthFields (.text "depth") .int := by
    refine ⟨fun key isRead value found => ?_, rfl, by decide⟩
    simp only [List.mem_cons, List.not_mem_nil, or_false] at isRead
    rcases isRead with rfl | rfl | rfl <;> cases found
    · rfl
    · rfl
    · decide +kernel
  have isLiteral : SlotType.int.Literal (.int (-7)) := .int (by decide +kernel)
  obtain ⟨slot, read, isName, _, survives⟩ := typed_literals_survive declares isLiteral
  have isPlaceholder : slot.placeholder = "\x7bdepth\x7d" := by
    rw [Slot.placeholder, isName]
    rfl
  have whole : WholePlaceholder [slot] slot.placeholder slot := ⟨rfl, [], [], rfl, by simp⟩
  have enters : Enters depthEntry slot.name (.int (-7)) :=
    ⟨by decide, [], .text "depth", [], rfl, isName.symm, by simp⟩
  obtain ⟨byDefault, entered⟩ := survives [slot] whole
  obtain ⟨values, readEntry, filled⟩ := entered depthEntry enters
  refine ⟨declares, isLiteral, slot, values, read, readEntry, ?_, ?_⟩
  · exact isPlaceholder ▸ ((byDefault rfl).1 [] rfl).alone
  · exact isPlaceholder ▸ filled.alone

end PipelineOverride
