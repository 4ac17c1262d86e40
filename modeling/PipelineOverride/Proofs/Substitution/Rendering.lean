import PipelineOverride.Proofs.Substitution.RawText

/-!
# Rendering fragments

Rendering drops a fragment whose first refused leaf gives a slot error, and keeps every other one.
It fails as a whole in one case only: the first refused leaf of some template is the placeholder of
an integer slot, and what was entered for it writes an integer beyond the range of floating-point
numbers.
-/

set_option autoImplicit false

namespace PipelineOverride

namespace Fragment

/-- A fragment that is a mapping, filled with texts. -/
inductive Sound : Fragment → Prop where
  | static {id : Scalar} {fields : Table Document} : Sound (.static id (.mapping fields))
  | template {id : Scalar} {fields : Table Document} {slots : List Slot}
      {values : Table Document} : TextValues values →
      Sound (.template id (.mapping fields) slots values)

/-- A template whose first refused leaf is the placeholder of a slot that overflows. -/
inductive Overflows : Fragment → Prop where
  | template {id : Scalar} {body : Document} {slots : List Slot} {values : Table Document}
      {before after : List String} {leaf raw : String} {slot : Slot} :
      body.leaves = before ++ leaf :: after →
      (∀ earlier ∈ before, leafFailure? (rawValues slots values) earlier = none) →
      wholeSlot? (rawValues slots values) leaf = some (slot, .text raw) →
      slot.Overflows raw → Overflows (.template id body slots values)

/-- The override of a fragment. There is none if a leaf of its template is refused. -/
def kept? : Fragment → Option Document
  | .static _ payload => some payload
  | .template _ body slots values => (fillTemplate body slots values).toOption

end Fragment

variable {slots : List (Slot × Document)} {s : String} {failure : Failure}

theorem wholeSlot?_text (texts : RawTexts slots) {slot : Slot} {value : Document}
    (whole : wholeSlot? slots s = some (slot, value)) : ∃ raw, value = .text raw :=
  texts (slot, value) (List.mem_of_find?_eq_some whole)

theorem leafFailure?_tooLarge_iff (texts : RawTexts slots) :
    leafFailure? slots s = some .tooLarge ↔
      ∃ slot raw, wholeSlot? slots s = some (slot, .text raw) ∧ slot.Overflows raw := by
  simp only [leafFailure?, Option.bind_eq_some_iff]
  constructor
  · intro given
    obtain ⟨⟨slot, value⟩, whole, fails⟩ := given
    obtain ⟨raw, rfl⟩ := wholeSlot?_text texts whole
    exact ⟨slot, raw, whole, coerce_failure?_tooLarge_iff.1 fails⟩
  · intro given
    obtain ⟨slot, raw, whole, overflows⟩ := given
    exact ⟨(slot, .text raw), whole, coerce_failure?_tooLarge_iff.2 overflows⟩

/-- Every refusal other than for an integer out of range is a slot error. -/
theorem leafFailure?_cases (texts : RawTexts slots) (fails : leafFailure? slots s = some failure) :
    failure = .tooLarge ∨ ∃ error, failure = .slot error := by
  simp only [leafFailure?, Option.bind_eq_some_iff] at fails
  obtain ⟨⟨slot, value⟩, whole, fails⟩ := fails
  obtain ⟨raw, rfl⟩ := wholeSlot?_text texts whole
  rcases coerce_failure?_cases fails with ⟨_, tooLarge⟩ | ⟨_, isSlot⟩
  · exact .inl tooLarge
  · exact .inr isSlot

theorem fillTemplate_failure?_cases {values : Table Document} (texts : TextValues values)
    {body : Document} {declared : List Slot}
    (fails : failure? (fillTemplate body declared values) = some failure) :
    failure = .tooLarge ∨ ∃ error, failure = .slot error := by
  have rawTexts := rawValues_texts texts declared
  rw [fillTemplate, substitute_failure? rawTexts] at fails
  obtain ⟨leaf, _, refused⟩ := List.exists_of_findSome?_eq_some fails
  exact leafFailure?_cases rawTexts refused

/-- Filling a template fails for the size of an integer exactly if the template overflows. -/
theorem fillTemplate_tooLarge_iff {values : Table Document} (texts : TextValues values)
    {id : Scalar} {body : Document} {declared : List Slot} :
    fillTemplate body declared values = .error .tooLarge ↔
      (Fragment.template id body declared values).Overflows := by
  have rawTexts := rawValues_texts texts declared
  rw [← failure?_eq_some_iff, fillTemplate, substitute_failure? rawTexts,
    List.findSome?_eq_some_iff]
  constructor
  · intro given
    obtain ⟨before, leaf, after, split, refused, accepted⟩ := given
    obtain ⟨slot, raw, whole, overflows⟩ := (leafFailure?_tooLarge_iff rawTexts).1 refused
    exact .template split accepted whole overflows
  · intro given
    obtain ⟨split, accepted, whole, overflows⟩ := given
    exact ⟨_, _, _, split, (leafFailure?_tooLarge_iff rawTexts).2 ⟨_, _, whole, overflows⟩,
      accepted⟩

/-!
## Outcomes
-/

variable {fragment : Fragment} {fragments : List Fragment}

theorem render_outcome_of_overflows (sound : fragment.Sound) (overflows : fragment.Overflows) :
    fragment.render.outcome = .error .tooLarge := by
  cases sound with
  | static => cases overflows
  | template texts =>
      rw [Fragment.render, (fillTemplate_tooLarge_iff texts).2 overflows]
      rfl

theorem render_outcome_of_not_overflows (sound : fragment.Sound)
    (fits : ¬ fragment.Overflows) : fragment.render.outcome = .ok fragment.kept? := by
  cases sound with
  | static => rfl
  | @template id fields declared values texts =>
      rw [Fragment.render, Fragment.kept?]
      cases filled : fillTemplate (.mapping fields) declared values with
      | ok document => rfl
      | error failure =>
          rcases fillTemplate_failure?_cases texts (failure?_eq_some_iff.2 filled)
            with rfl | ⟨error, rfl⟩
          · exact absurd ((fillTemplate_tooLarge_iff texts).1 filled) fits
          · rfl

theorem kept?_mapping (sound : fragment.Sound) {document : Document}
    (kept : fragment.kept? = some document) : ∃ fields, document = .mapping fields := by
  cases sound with
  | static =>
      cases kept
      exact ⟨_, rfl⟩
  | template _ =>
      rw [Fragment.kept?, fillTemplate, substitute] at kept
      generalize substituteFields _ _ = filled at kept
      cases filled with
      | error _ => cases kept
      | ok fields =>
          cases kept
          exact ⟨_, rfl⟩

theorem render_eq_ok {kept : Option Document} (renders : fragment.render.outcome = .ok kept) :
    kept = fragment.kept? := by
  cases fragment with
  | static id payload =>
      cases renders
      rfl
  | template id body declared values =>
      rw [Fragment.render] at renders
      rw [Fragment.kept?]
      cases filled : fillTemplate body declared values with
      | ok document =>
          rw [filled] at renders
          cases renders
          rfl
      | error failure =>
          rw [filled] at renders
          cases failure with
          | slot error =>
              cases renders
              rfl
          | _ => cases renders

/-- Whatever the fragments are, rendering that succeeds gives what is kept of them. -/
theorem renderFragments_eq_ok {documents : List Document}
    (renders : (renderFragments fragments).outcome = .ok documents) :
    documents = fragments.filterMap Fragment.kept? := by
  induction fragments generalizing documents with
  | nil =>
      cases renders
      rfl
  | cons fragment rest ih =>
      simp only [renderFragments, Report.outcome_bind, Report.outcome_pure,
        Except.bind_eq_ok_iff] at renders
      obtain ⟨first, rendersFirst, others, rendersOthers, ends⟩ := renders
      cases ends
      rw [render_eq_ok rendersFirst, ih rendersOthers]
      cases kept : fragment.kept? <;> simp [kept]

theorem renderFragments_outcome (sound : ∀ fragment ∈ fragments, fragment.Sound)
    (fits : ∀ fragment ∈ fragments, ¬ fragment.Overflows) :
    (renderFragments fragments).outcome = .ok (fragments.filterMap Fragment.kept?) := by
  induction fragments with
  | nil => rfl
  | cons fragment rest ih =>
      have first := render_outcome_of_not_overflows (sound _ (.head _)) (fits _ (.head _))
      have others := ih (fun later member => sound later (.tail _ member))
        fun later member => fits later (.tail _ member)
      simp only [renderFragments, Report.outcome_bind, first, others, Except.ok_bind,
        Report.outcome_pure]
      cases kept : fragment.kept? <;> simp [kept]

theorem renderFragments_outcome_of_overflows (sound : ∀ fragment ∈ fragments, fragment.Sound)
    (overflows : ∃ fragment ∈ fragments, fragment.Overflows) :
    (renderFragments fragments).outcome = .error .tooLarge := by
  induction fragments with
  | nil =>
      obtain ⟨_, member, _⟩ := overflows
      cases member
  | cons fragment rest ih =>
      simp only [renderFragments, Report.outcome_bind]
      by_cases large : fragment.Overflows
      · rw [render_outcome_of_overflows (sound _ (.head _)) large, Except.error_bind]
      · have others := ih (fun later member => sound later (.tail _ member)) <| by
          obtain ⟨later, member, laterLarge⟩ := overflows
          rcases List.mem_cons.1 member with rfl | member
          · exact absurd laterLarge large
          · exact ⟨later, member, laterLarge⟩
        rw [render_outcome_of_not_overflows (sound _ (.head _)) large, Except.ok_bind, others,
          Except.error_bind]

end PipelineOverride
