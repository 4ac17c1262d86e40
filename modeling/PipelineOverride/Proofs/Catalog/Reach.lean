import Mathlib.Algebra.GroupWithZero.Nat
import PipelineOverride.Catalog.Basic
import PipelineOverride.Proofs.Document.Distinct
import PipelineOverride.Proofs.Resolution.Progress

/-!
# The worklist of a task

The options of a built-in task are found with a worklist of references, which ends when nothing is
left on it. In whatever order references are taken off it, it ends after a bounded number of steps,
and it finds exactly the ids that are reachable: it never sees anything else, and what is reachable
is either seen or still on the list at every step.
-/

set_option autoImplicit false

namespace PipelineOverride

/-- An id is the same as one that was seen. -/
def Seen (seen : List Scalar) (id : Scalar) : Prop :=
  (seen.any fun other => other.same id) = true

instance (seen : List Scalar) (id : Scalar) : Decidable (Seen seen id) :=
  inferInstanceAs (Decidable (_ = true))

/-- The references in all cases of an id, none where it has no definition. -/
def Registry.following (registry : Registry) (id : Scalar) : List Document :=
  ((registry.lookup id).map OptionDefinition.references).getD []

variable {registry : Registry} {seen : List Scalar} {pending : List Document} {id : Scalar}

theorem seen_iff : Seen seen id ↔ ∃ other ∈ seen, other.same id = true :=
  List.any_eq_true

theorem Seen.of_mem (member : id ∈ seen) : Seen seen id :=
  seen_iff.2 ⟨id, member, Scalar.same_self id⟩

theorem Seen.mono {more : List Scalar} (isSeen : Seen seen id) (included : seen ⊆ more) :
    Seen more id := by
  obtain ⟨other, member, same⟩ := seen_iff.1 isSeen
  exact seen_iff.2 ⟨other, included member, same⟩

theorem Registry.mem_following {reference : Document} :
    reference ∈ Registry.following registry id
      ↔ ∃ definition, registry.lookup id = some definition
        ∧ reference ∈ definition.references := by
  cases found : registry.lookup id <;> simp [Registry.following, found]

theorem Registry.following_congr {other : Scalar} (same : other.same id = true) :
    Registry.following registry other = Registry.following registry id := by
  simp only [Registry.following, Table.lookup_congr same]

/-!
## Steps of the worklist
-/

@[simp] theorem reach_nil (registry : Registry) (seen : List Scalar) :
    reach registry seen [] = seen := by
  rw [reach]

/-- A reference is passed over that is no id, or whose id was seen. -/
theorem reach_skip {reference : Document} (rest : List Document)
    (known : ∀ id, reference.scalar? = some id → Seen seen id) :
    reach registry seen (reference :: rest) = reach registry seen rest := by
  rw [reach]
  cases isId : reference.scalar? with
  | none => rfl
  | some id => simp only [dif_pos (show _ = true from known id isId)]

/-- A new id is seen from now on, and all that its cases refer to comes onto the list. -/
theorem reach_enter {reference : Document} (rest : List Document)
    (isId : reference.scalar? = some id) (fresh : ¬ Seen seen id) :
    reach registry seen (reference :: rest)
      = reach registry (seen ++ [id]) (registry.following id ++ rest) := by
  rw [reach]
  simp only [isId, dif_neg (show ¬ _ = true from fresh), Registry.following]
  split <;> rename_i found <;> simp [found]

/-- Induction along the worklist: past a reference that brings nothing new, or into a new id. -/
theorem reach_induction (registry : Registry) {motive : List Scalar → List Document → Prop}
    (nil : ∀ seen, motive seen [])
    (skip : ∀ seen reference rest, (∀ id, reference.scalar? = some id → Seen seen id) →
      motive seen rest → motive seen (reference :: rest))
    (enter : ∀ seen reference rest id, reference.scalar? = some id → ¬ Seen seen id →
      motive (seen ++ [id]) (registry.following id ++ rest) → motive seen (reference :: rest))
    (seen : List Scalar) (pending : List Document) : motive seen pending := by
  induction seen, pending using reach.induct registry with
  | case1 seen => exact nil seen
  | case2 seen reference rest noId ih =>
      exact skip seen reference rest (fun id isId => by cases noId.symm.trans isId) ih
  | case3 seen reference rest id isId isSeen ih =>
      refine skip seen reference rest (fun other isOther => ?_) ih
      cases isId.symm.trans isOther
      exact isSeen
  | case4 seen reference rest id isId fresh undefined _ ih =>
      refine enter seen reference rest id isId fresh ?_
      simpa [Registry.following, undefined] using ih
  | case5 seen reference rest id isId fresh definition found _ ih =>
      refine enter seen reference rest id isId fresh ?_
      simpa [Registry.following, found] using ih

/-!
## Runs of the worklist

The order in which references are taken off the list does not matter, so a step takes any of them,
and where it puts what follows is left open as well.
-/

/-- The ids that were seen and the references that are left. -/
structure Worklist where
  seen : List Scalar
  pending : List Document

namespace Worklist

inductive Step (registry : Registry) : Worklist → Worklist → Prop where
  | skip {seen pending reference rest} : pending.Perm (reference :: rest) →
      (∀ id, reference.scalar? = some id → Seen seen id) →
      Step registry ⟨seen, pending⟩ ⟨seen, rest⟩
  | enter {seen pending reference rest id onward} : pending.Perm (reference :: rest) →
      reference.scalar? = some id → ¬ Seen seen id →
      onward.Perm (registry.following id ++ rest) →
      Step registry ⟨seen, pending⟩ ⟨seen ++ [id], onward⟩

/-- Some number of steps, one after another. -/
inductive Run (registry : Registry) : Nat → Worklist → Worklist → Prop where
  | stop {list} : Run registry 0 list list
  | step {count first second last} : Step registry first second →
      Run registry count second last → Run registry (count + 1) first last

variable {before after : Worklist} {count : Nat} {references : List Document}

/-- As long as references are left, there is a step. -/
theorem exists_step (left : before.pending ≠ []) : ∃ after, Step registry before after := by
  obtain ⟨seen, pending⟩ := before
  obtain ⟨reference, rest, rfl⟩ := List.exists_cons_of_ne_nil left
  by_cases known : ∀ id, reference.scalar? = some id → Seen seen id
  · exact ⟨_, .skip (.refl _) known⟩
  · push Not at known
    obtain ⟨id, isId, fresh⟩ := known
    exact ⟨_, .enter (.refl _) isId fresh (.refl _)⟩

/-!
## Every run ends
-/

/-- How many references stand in the cases of options that were not seen yet. -/
def unseenReferences (registry : Registry) (seen : List Scalar) : Nat :=
  ((registry.filter fun entry => !seen.any fun other => other.same entry.1).map
    fun entry => entry.2.references.length).sum

/-- A bound for the references that are still taken off the list. -/
def size (registry : Registry) (list : Worklist) : Nat :=
  list.pending.length + unseenReferences registry list.seen

theorem unseenReferences_cons (key : Scalar) (definition : OptionDefinition) (rest : Registry)
    (seen : List Scalar) :
    unseenReferences ((key, definition) :: rest) seen
      = (if Seen seen key then 0 else definition.references.length)
        + unseenReferences rest seen := by
  rw [unseenReferences, unseenReferences, List.filter_cons]
  by_cases isSeen : Seen seen key
  · have skipped : (!seen.any fun other => other.same key) = false := by
      rw [show (seen.any fun other => other.same key) = true from isSeen, Bool.not_true]
    simp [isSeen, skipped]
  · have counted : (!seen.any fun other => other.same key) = true := by
      rw [Bool.eq_false_iff.2 (show ¬ _ = true from isSeen), Bool.not_false]
    simp [isSeen, counted]

theorem unseenReferences_le (registry : Registry) {more : List Scalar} (included : seen ⊆ more) :
    unseenReferences registry more ≤ unseenReferences registry seen := by
  induction registry with
  | nil => exact Nat.le_refl _
  | cons entry rest ih =>
      obtain ⟨key, definition⟩ := entry
      rw [unseenReferences_cons, unseenReferences_cons]
      by_cases isSeen : Seen seen key
      · rw [if_pos isSeen, if_pos (isSeen.mono included)]
        omega
      · rw [if_neg isSeen]
        split <;> omega

/-- The references of a new id are counted as long as it was not seen, and no longer after that. -/
theorem unseenReferences_enter (registry : Registry) (fresh : ¬ Seen seen id) :
    unseenReferences registry (seen ++ [id]) + (registry.following id).length
      ≤ unseenReferences registry seen := by
  induction registry with
  | nil => exact Nat.le_refl _
  | cons entry rest ih =>
      obtain ⟨key, definition⟩ := entry
      rw [unseenReferences_cons, unseenReferences_cons]
      by_cases same : key.same id = true
      · have isEntered : Seen (seen ++ [id]) key :=
          seen_iff.2 ⟨id, by simp, Scalar.same_symm same⟩
        have unseen : ¬ Seen seen key := by
          intro isSeen
          obtain ⟨other, member, sameOther⟩ := seen_iff.1 isSeen
          exact fresh (seen_iff.2 ⟨other, member, Scalar.same_trans sameOther same⟩)
        have follows : Registry.following ((key, definition) :: rest) id
            = definition.references := by
          rw [Registry.following, Table.lookup_cons, if_pos same, Option.map_some,
            Option.getD_some]
        have others := unseenReferences_le rest (List.subset_append_left seen [id])
        rw [if_pos isEntered, if_neg unseen, follows]
        omega
      · have follows : Registry.following ((key, definition) :: rest) id
            = Registry.following rest id := by
          rw [Registry.following, Table.lookup_cons, if_neg same, Registry.following]
        rw [follows]
        by_cases isSeen : Seen seen key
        · rw [if_pos isSeen, if_pos (isSeen.mono (List.subset_append_left ..))]
          omega
        · rw [if_neg isSeen]
          split <;> omega

theorem Step.size_lt (step : Step registry before after) :
    after.size registry < before.size registry := by
  cases step with
  | skip taken _ =>
      have fewer := taken.length_eq
      simp only [List.length_cons, size] at fewer ⊢
      omega
  | enter taken _ fresh goes =>
      have fewer := taken.length_eq
      have added := goes.length_eq
      have released := unseenReferences_enter registry fresh
      simp only [List.length_cons, List.length_append, size] at fewer added ⊢
      omega

theorem Run.count_le (run : Run registry count before after) : count ≤ before.size registry := by
  induction run with
  | stop => exact Nat.zero_le _
  | step step _ ih =>
      have := step.size_lt
      omega

/-!
## What a run has seen in the end
-/

end Worklist

/-- All that the cases of a seen id refer to is seen as well, or still on the list. -/
def Explored (registry : Registry) (seen : List Scalar) (pending : List Document) : Prop :=
  ∀ id ∈ seen, ∀ reference ∈ registry.following id,
    (∀ nested, reference.scalar? = some nested → Seen seen nested) ∨ reference ∈ pending

namespace Worklist

variable {before after : Worklist} {count : Nat} {references : List Document}

/-- What holds at every step of a run from a list of references on. Nothing is met that cannot be
reached, and what can be reached is never lost from sight. -/
structure Faithful (registry : Registry) (references : List Document) (list : Worklist) :
    Prop where
  seen : ∀ id ∈ list.seen, Reachable registry references id
  pending : ∀ reference ∈ list.pending, ∀ id, reference.scalar? = some id →
    Reachable registry references id
  begun : ∀ reference ∈ references,
    (∀ id, reference.scalar? = some id → Seen list.seen id) ∨ reference ∈ list.pending
  explored : Explored registry list.seen list.pending

theorem Faithful.start (registry : Registry) (references : List Document) :
    Faithful registry references ⟨[], references⟩ := by
  constructor
  case seen => exact fun _ none => (List.not_mem_nil none).elim
  case pending => exact fun reference member id isId => .listed member isId
  case begun => exact fun reference member => .inr member
  case explored => exact fun _ none => (List.not_mem_nil none).elim

/-- A reference that was dealt with or waits does so after a step, too. -/
theorem Step.keeps (step : Step registry before after) (reference : Document)
    (handled : (∀ id, reference.scalar? = some id → Seen before.seen id)
      ∨ reference ∈ before.pending) :
    (∀ id, reference.scalar? = some id → Seen after.seen id) ∨ reference ∈ after.pending := by
  cases step with
  | skip taken known =>
      rcases handled with isSeen | waits
      · exact .inl isSeen
      · rcases List.mem_cons.1 (taken.mem_iff.1 waits) with rfl | waits
        · exact .inl known
        · exact .inr waits
  | enter taken isId _ goes =>
      rcases handled with isSeen | waits
      · exact .inl fun other isOther =>
          (isSeen other isOther).mono (List.subset_append_left ..)
      · rcases List.mem_cons.1 (taken.mem_iff.1 waits) with rfl | waits
        · refine .inl fun other isOther => ?_
          cases isId.symm.trans isOther
          exact .of_mem (List.mem_append_right _ (.head _))
        · exact .inr (goes.mem_iff.2 (List.mem_append_right _ waits))

theorem Faithful.step (faithful : Faithful registry references before)
    (step : Step registry before after) : Faithful registry references after := by
  have keeps := step.keeps
  cases step with
  | skip taken known =>
      constructor
      case seen => exact faithful.seen
      case pending =>
        exact fun other member => faithful.pending other (taken.mem_iff.2 (.tail _ member))
      case begun => exact fun other member => keeps other (faithful.begun other member)
      case explored =>
        exact fun id member other follows => keeps other (faithful.explored id member other follows)
  | @enter _ _ reference rest id onward taken isId fresh goes =>
      have reached := faithful.pending reference (taken.mem_iff.2 (.head _)) id isId
      constructor
      case seen =>
        intro other member
        rcases List.mem_append.1 member with earlier | isLast
        · exact faithful.seen other earlier
        · exact List.mem_singleton.1 isLast ▸ reached
      case pending =>
        intro other member nested isNested
        rcases List.mem_append.1 (goes.mem_iff.1 member) with follows | beside
        · obtain ⟨definition, found, member⟩ := Registry.mem_following.1 follows
          exact reached.nested found member isNested
        · exact faithful.pending other (taken.mem_iff.2 (.tail _ beside)) nested isNested
      case begun => exact fun other member => keeps other (faithful.begun other member)
      case explored =>
        intro passed member other follows
        rcases List.mem_append.1 member with earlier | isLast
        · exact keeps other (faithful.explored passed earlier other follows)
        · rw [List.mem_singleton.1 isLast] at follows
          exact .inr (goes.mem_iff.2 (List.mem_append_left _ follows))

theorem Faithful.run (faithful : Faithful registry references before)
    (run : Run registry count before after) : Faithful registry references after := by
  induction run with
  | stop => exact faithful
  | step step _ ih => exact ih (faithful.step step)

/-- Once nothing is left the ids that were seen are those that can be reached. -/
theorem Faithful.seen_iff {list : Worklist} (faithful : Faithful registry references list)
    (done : list.pending = []) :
    Seen list.seen id ↔ ∃ other, Reachable registry references other ∧ other.same id = true := by
  have complete : ∀ other, Reachable registry references other → Seen list.seen other := by
    intro other reachable
    induction reachable with
    | listed member isId =>
        rcases faithful.begun _ member with isSeen | waits
        · exact isSeen _ isId
        · simp [done] at waits
    | nested _ found member isId ih =>
        obtain ⟨met, isMet, same⟩ := PipelineOverride.seen_iff.1 ih
        have follows := Registry.mem_following.2 ⟨_, found, member⟩
        rw [← Registry.following_congr same] at follows
        rcases faithful.explored met isMet _ follows with isSeen | waits
        · exact isSeen _ isId
        · simp [done] at waits
  constructor
  · intro isSeen
    obtain ⟨other, member, same⟩ := PipelineOverride.seen_iff.1 isSeen
    exact ⟨other, faithful.seen other member, same⟩
  · intro given
    obtain ⟨other, reachable, same⟩ := given
    obtain ⟨met, member, sameMet⟩ := PipelineOverride.seen_iff.1 (complete other reachable)
    exact PipelineOverride.seen_iff.2 ⟨met, member, Scalar.same_trans sameMet same⟩

end Worklist

/-- What is reached is what one of the runs has seen in the end. -/
theorem exists_run_reach (registry : Registry) (seen : List Scalar) (pending : List Document) :
    ∃ count, Worklist.Run registry count ⟨seen, pending⟩ ⟨reach registry seen pending, []⟩ := by
  induction seen, pending using reach_induction registry with
  | nil seen => exact ⟨0, by rw [reach_nil]; exact .stop⟩
  | skip seen reference rest known ih =>
      obtain ⟨count, run⟩ := ih
      exact ⟨count + 1, by rw [reach_skip rest known]; exact .step (.skip (.refl _) known) run⟩
  | enter seen reference rest entered isId fresh ih =>
      obtain ⟨count, run⟩ := ih
      refine ⟨count + 1, ?_⟩
      rw [reach_enter rest isId fresh]
      exact .step (.enter (.refl _) isId fresh (.refl _)) run

/-- The worklist sees the ids that are reachable, and no others. -/
theorem seen_reach_iff {references : List Document} :
    Seen (reach registry [] references) id
      ↔ ∃ other, Reachable registry references other ∧ other.same id = true := by
  obtain ⟨_, run⟩ := exists_run_reach registry [] references
  exact ((Worklist.Faithful.start registry references).run run).seen_iff rfl

namespace Catalog

variable {catalog : Catalog} {name : String} {task : Task} {definition : OptionDefinition}

/-- The options of a built-in task are the defined ones among those that it can reach. -/
theorem taskOption?_eq_some_iff (found : catalog.task? name = some task) :
    catalog.taskOption? name id = some definition
      ↔ (∃ other, Reachable catalog.options task.options other ∧ other.same id = true)
        ∧ catalog.options.lookup id = some definition := by
  have scope : catalog.reachable name = reach catalog.options [] task.options := by
    simp only [reachable, found]
  rw [taskOption?, scope, ← seen_reach_iff]
  by_cases isSeen : Seen (reach catalog.options [] task.options) id
  · rw [if_pos (show _ = true from isSeen), and_iff_right isSeen]
    rfl
  · rw [if_neg (show ¬ _ = true from isSeen)]
    simp [isSeen]

end Catalog

end PipelineOverride
