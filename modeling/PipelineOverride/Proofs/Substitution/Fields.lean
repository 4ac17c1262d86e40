import PipelineOverride.Proofs.Substitution.Leaves

/-!
# The fields of a filled template

Every mapping of a filled template comes from one mapping of the template. It has as many fields
unless two keys of that mapping become the same text, in which case the earlier field is lost.
-/

set_option autoImplicit false

namespace PipelineOverride

variable {slots : List (Slot × Document)}

/-- A mapping of the template is kept, and substitution moves it to a place. -/
def ComesFrom (onKey : Scalar → Scalar) (body : Document) (place : List Document.Step)
    (fields : Table Document) : Prop :=
  ∃ position, KeptAt onKey body position (.mapping fields) ∧
    position.map (Document.Step.rewrite onKey) = place

/-- Each mapping of the result has as many entries as the mapping that it comes from. -/
def LosesNoField (onKey : Scalar → Scalar) (body result : Document) : Prop :=
  ∀ place entries, result.place? place = some (.mapping entries) →
    ∀ fields, ComesFrom onKey body place fields → entries.length = fields.length

/-!
## Keys and leaves after substitution
-/

theorem keyAfter_text (slots : List (Slot × Document)) (name : String) :
    ∃ newName, keyAfter slots (.text name) = .text newName := by
  rw [keyAfter, substituteKey]
  cases substituteText slots name.toList with
  | error failure => exact ⟨name, rfl⟩
  | ok cs => exact ⟨String.ofList cs, rfl⟩

theorem SlotType.Denotes.scalar {type : SlotType} {raw : String} {value : Document}
    (denotes : type.Denotes raw value) : ∃ own, value = .scalar own := by
  cases denotes with
  | integer | float | truth | string => exact ⟨_, rfl⟩

theorem leafAfter_scalar (texts : RawTexts slots) (leaf : String) :
    ∃ value, leafAfter slots leaf = .scalar value := by
  rw [leafAfter]
  cases outcome : substituteLeaf slots leaf with
  | error failure => exact ⟨.text leaf, rfl⟩
  | ok value =>
      rw [substituteLeaf] at outcome
      split at outcome
      · rename_i slot raw whole
        obtain ⟨text, rfl⟩ := texts (slot, raw) (List.mem_of_find?_eq_some whole)
        exact (coerce_eq_ok_iff.1 outcome).scalar
      · obtain ⟨cs, _, rfl⟩ := Except.map_eq_ok_iff.1 outcome
        exact ⟨.text (String.ofList cs), rfl⟩

/-!
## Mappings of the result
-/

section Rewritten

variable {onKey : Scalar → Scalar} {onText : String → Document} {body : Document}
  {fields entries : Table Document} {place : List Document.Step}

theorem fields_of_rewrite_mapping (plain : ∀ leaf, ∃ value, onText leaf = .scalar value)
    (rewritten : body.rewrite onKey onText = .mapping entries) :
    ∃ fields, body = .mapping fields := by
  cases body with
  | mapping fields => exact ⟨fields, rfl⟩
  | list _ | set _ => cases rewritten
  | scalar value =>
      cases value with
      | text leaf =>
          obtain ⟨own, isScalar⟩ := plain leaf
          rw [Document.rewrite, isScalar] at rewritten
          cases rewritten
      | _ => cases rewritten

theorem ComesFrom.placed (comes : ComesFrom onKey body place fields) :
    (body.rewrite onKey onText).place? place
      = some (.mapping (Table.ofEntries (Document.rewriteFields onKey onText fields))) := by
  obtain ⟨position, kept, rfl⟩ := comes
  exact kept.placed

theorem ComesFrom.length_eq_iff (comes : ComesFrom onKey body place fields)
    (there : (body.rewrite onKey onText).place? place = some (.mapping entries)) :
    entries.length = fields.length ↔
      fields.Pairwise fun earlier later => ¬ (onKey later.1).same (onKey earlier.1) = true := by
  have placed : (body.rewrite onKey onText).place? place = _ := comes.placed
  rw [there] at placed
  cases placed
  have count : (Document.rewriteFields onKey onText fields).length = fields.length := by
    rw [Document.rewriteFields_eq_map, List.length_map]
  rw [← count, Table.length_ofEntries_eq_iff, rewriteFields_distinct_iff]

/-- A mapping of the result comes from exactly one mapping of the template. -/
theorem existsUnique_comesFrom (plain : ∀ leaf, ∃ value, onText leaf = .scalar value)
    (textual : ∀ name, ∃ newName, onKey (.text name) = .text newName) (json : body.IsJson)
    (there : (body.rewrite onKey onText).place? place = some (.mapping entries)) :
    ∃! fields, ComesFrom onKey body place fields := by
  obtain ⟨position, inner, kept, rfl, rewritten⟩ :=
    exists_kept_of_placed plain textual json there
  obtain ⟨fields, rfl⟩ := fields_of_rewrite_mapping plain rewritten.symm
  refine ⟨fields, ⟨position, kept, rfl⟩, ?_⟩
  intro others comes
  obtain ⟨otherPosition, keptOther, same⟩ := comes
  obtain ⟨_, isSame⟩ := keptOther.unique kept same
  exact Document.mapping.inj isSame

theorem losesNoField_iff :
    LosesNoField onKey body (body.rewrite onKey onText) ↔ KeysStayApart onKey body := by
  rw [keysStayApart_iff]
  constructor
  · intro loses position fields kept
    have comes : ComesFrom onKey body (position.map (Document.Step.rewrite onKey)) fields :=
      ⟨position, kept, rfl⟩
    exact (comes.length_eq_iff comes.placed).1 (loses _ _ comes.placed fields comes)
  · intro apart place entries there fields comes
    have counts := comes.length_eq_iff there
    obtain ⟨position, kept, _⟩ := comes
    exact counts.2 (apart position fields kept)

end Rewritten

section Template

variable {body result : Document} {declared : List Slot} {values : Table Document}

/-- Each mapping of a filled template comes from one mapping of the template. All of them have as
many entries as the mappings that they come from exactly if no two keys of one mapping of the
template become the same. -/
theorem fields_survive_iff_keys_stay_apart (json : body.IsJson) (texts : TextValues values)
    (filled : fillTemplate body declared values = .ok result) :
    (∀ place entries, result.place? place = some (.mapping entries) →
        ∃! fields, ComesFrom (keyAfter (rawValues declared values)) body place fields) ∧
      (LosesNoField (keyAfter (rawValues declared values)) body result ↔
        KeysStayApart (keyAfter (rawValues declared values)) body) := by
  have raw := rawValues_texts texts declared
  rw [eq_rewrite_of_substitute filled]
  refine ⟨fun place entries there => ?_, losesNoField_iff⟩
  exact existsUnique_comesFrom (leafAfter_scalar raw) (keyAfter_text _) json there

end Template

/-- A template with a placeholder as one key and a plain name as the other. -/
def roomTemplate : Document :=
  .object [("\x7broom\x7d", .object [("x", .int 1)]), ("Hall", .object [("y", .int 2)])]

def roomValues (room : String) : Table Document :=
  [(.text "room", .text room)]

theorem roomValues_texts (room : String) : TextValues (roomValues room) := by
  intro entry member
  obtain rfl := List.mem_singleton.1 member
  exact ⟨room, rfl⟩

theorem roomTemplate_json : roomTemplate.IsJson := by
  have single : ∀ name n, (Document.object [(name, .int n)]).IsJson := by
    intro name n
    refine .object (List.pairwise_singleton _ _) ?_ ?_ <;> intro field member <;>
      obtain rfl := List.mem_singleton.1 member
    · exact ⟨name, rfl⟩
    · exact .int
  refine .object (by decide) ?_ ?_
  · simp
  · simp [single]

theorem kitchen_loses_no_field :
    roomTemplate.IsJson ∧ TextValues (roomValues "Kitchen") ∧
      fillTemplate roomTemplate [Slot.plain "room"] (roomValues "Kitchen")
        = .ok (.object [("Kitchen", .object [("x", .int 1)]), ("Hall", .object [("y", .int 2)])]) ∧
      LosesNoField (keyAfter (rawValues [Slot.plain "room"] (roomValues "Kitchen"))) roomTemplate
        (.object [("Kitchen", .object [("x", .int 1)]), ("Hall", .object [("y", .int 2)])]) := by
  have filled : fillTemplate roomTemplate [Slot.plain "room"] (roomValues "Kitchen")
      = .ok (.object [("Kitchen", .object [("x", .int 1)]), ("Hall", .object [("y", .int 2)])]) :=
    rfl
  refine ⟨roomTemplate_json, roomValues_texts _, filled, ?_⟩
  refine (fields_survive_iff_keys_stay_apart roomTemplate_json (roomValues_texts _) filled).2.2 ?_
  refine .mapping (by decide) ?_
  have single : ∀ onKey name n, KeysStayApart onKey (.object [(name, .int n)]) := by
    intro onKey name n
    refine .mapping (List.pairwise_singleton _ _) fun field member => ?_
    obtain rfl := List.mem_singleton.1 member
    exact .scalar
  simp [single]

theorem hall_loses_a_field :
    fillTemplate roomTemplate [Slot.plain "room"] (roomValues "Hall")
        = .ok (.object [("Hall", .object [("y", .int 2)])]) ∧
      ¬ LosesNoField (keyAfter (rawValues [Slot.plain "room"] (roomValues "Hall"))) roomTemplate
        (.object [("Hall", .object [("y", .int 2)])]) := by
  refine ⟨rfl, fun loses => ?_⟩
  have counts := loses [] _ rfl _ ⟨[], .here, rfl⟩
  cases counts

end PipelineOverride
