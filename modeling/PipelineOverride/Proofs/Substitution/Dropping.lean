import PipelineOverride.Proofs.Substitution.Rendering

/-!
# Dropped fragments

A fragment whose template fails with a slot error is dropped with one warning. Rendering gives the
same with and without such fragments, and where it returns, it keeps all others in their order.
-/

set_option autoImplicit false

namespace PipelineOverride

namespace Fragment

def id : Fragment → Scalar
  | .static id _ => id
  | .template id _ _ _ => id

/-- The slot error with which filling a template fails. -/
def slotError? : Fragment → Option SlotError
  | .static _ _ => none
  | .template _ body slots values =>
    match fillTemplate body slots values with
    | .error (.slot error) => some error
    | _ => none

/-- The warning of a dropped fragment. -/
def dropNotice? (fragment : Fragment) : Option Notice :=
  fragment.slotError?.map fun error => ⟨.warning, .compiler,
    "Dropping override of option '" ++ fragment.id.display ++ "': " ++ error.message⟩

end Fragment

variable {fragment : Fragment} {pieces : List Fragment} {rendered : List Document}

/-!
## Rendering
-/

theorem render_of_slotError {error : SlotError} (fails : fragment.slotError? = some error) :
    fragment.render = ⟨fragment.dropNotice?.toList, .ok none⟩ := by
  cases fragment with
  | static id payload => cases fails
  | template id body slots values =>
      simp only [Fragment.dropNotice?, fails]
      simp only [Fragment.slotError?] at fails
      split at fails
      · rename_i filled
        cases fails
        simp only [Fragment.render, filled, Option.map_some, Option.toList_some, Fragment.id]
      · cases fails

/-- Without a slot error rendering says nothing; it fails or keeps the fragment. -/
theorem render_of_no_slotError (fits : fragment.slotError? = none) :
    fragment.render.notices = []
      ∧ ∀ document, fragment.render.outcome = .ok document → document = fragment.kept? := by
  cases fragment with
  | static id payload => exact ⟨rfl, fun _ same => (Except.ok.inj same).symm⟩
  | template id body slots values =>
      simp only [Fragment.slotError?] at fits
      cases filled : fillTemplate body slots values with
      | ok document =>
          simp only [Fragment.render, filled, Fragment.kept?]
          exact ⟨rfl, fun _ same => (Except.ok.inj same).symm⟩
      | error failure =>
          rw [filled] at fits
          cases failure with
          | slot error => cases fits
          | _ =>
              simp only [Fragment.render, filled]
              refine ⟨rfl, fun _ same => ?_⟩
              cases same

theorem kept?_of_slotError {error : SlotError} (fails : fragment.slotError? = some error) :
    fragment.kept? = none := by
  cases fragment with
  | static id payload => cases fails
  | template id body slots values =>
      simp only [Fragment.slotError?] at fails
      split at fails
      · rename_i filled
        simp only [Fragment.kept?, filled]
        rfl
      · cases fails

theorem renderFragments_cons_outcome (fragment : Fragment) (rest : List Fragment) :
    (renderFragments (fragment :: rest)).outcome
      = fragment.render.outcome >>= fun first =>
        (renderFragments rest).outcome >>= fun others => .ok (first.toList ++ others) := by
  simp only [renderFragments, Report.outcome_bind, Report.outcome_pure]

/-- Leaving out the fragments with slot errors beforehand has the same outcome. -/
theorem renderFragments_outcome_filter (fragments : List Fragment) :
    (renderFragments (fragments.filter fun fragment => fragment.slotError?.isNone)).outcome
      = (renderFragments fragments).outcome := by
  induction fragments with
  | nil => rfl
  | cons fragment rest ih =>
      cases slot : fragment.slotError? with
      | none =>
          rw [List.filter_cons_of_pos (by simp [slot]), renderFragments_cons_outcome,
            renderFragments_cons_outcome, ih]
      | some error =>
          rw [List.filter_cons_of_neg (by simp [slot]), renderFragments_cons_outcome,
            render_of_slotError slot, ih]
          cases (renderFragments rest).outcome <;> rfl

/-- Rendering that returns keeps every fragment without a slot error and warns of each other one. -/
theorem renderFragments_of_returns (returns : (renderFragments pieces).outcome = .ok rendered) :
    rendered = pieces.filterMap Fragment.kept?
      ∧ (renderFragments pieces).notices = pieces.filterMap Fragment.dropNotice? := by
  induction pieces generalizing rendered with
  | nil =>
      cases returns
      exact ⟨rfl, rfl⟩
  | cons fragment rest ih =>
      rw [renderFragments_cons_outcome] at returns
      obtain ⟨first, isFirst, onward⟩ := Except.bind_eq_ok_iff.1 returns
      obtain ⟨others, isOthers, ends⟩ := Except.bind_eq_ok_iff.1 onward
      cases ends
      obtain ⟨rfl, later⟩ := ih isOthers
      have notices : (renderFragments (fragment :: rest)).notices
          = fragment.render.notices ++ rest.filterMap Fragment.dropNotice? := by
        rw [renderFragments, Report.notices_bind_of_ok _ isFirst,
          Report.notices_bind_of_ok _ isOthers, later, Report.notices_pure, List.append_nil]
      rw [notices]
      cases slot : fragment.slotError? with
      | none =>
          obtain ⟨quiet, keeps⟩ := render_of_no_slotError slot
          rw [keeps first isFirst, quiet]
          have silent : fragment.dropNotice? = none := by
            rw [Fragment.dropNotice?, slot, Option.map_none]
          cases kept : fragment.kept? <;> simp [kept, silent]
      | some error =>
          rw [render_of_slotError slot] at isFirst ⊢
          cases isFirst
          have warns : fragment.dropNotice?.isSome := by
            rw [Fragment.dropNotice?, slot]
            rfl
          obtain ⟨notice, isNotice⟩ := Option.isSome_iff_exists.1 warns
          simp [kept?_of_slotError slot, isNotice]

theorem filterMap_dropNotice?_filter (fragments : List Fragment) :
    (fragments.filter fun fragment => fragment.slotError?.isNone).filterMap Fragment.dropNotice?
      = [] := by
  rw [List.filterMap_eq_nil_iff]
  intro fragment member
  have fits := Option.isNone_iff_eq_none.1 (List.mem_filter.1 member).2
  rw [Fragment.dropNotice?, fits, Option.map_none]

end PipelineOverride
