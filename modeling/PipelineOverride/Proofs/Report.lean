import Mathlib.Data.List.Forall2
import PipelineOverride.Report

/-!
# Outcomes of reports

The outcome of a composed report is the composition of the outcomes, whatever is noted on the way.
Many outcomes have one condition under which there is a result, and one failure otherwise.
-/

set_option autoImplicit false

namespace PipelineOverride

theorem Except.bind_eq_ok_iff {α β : Type} {source : Except Failure α}
    {next : α → Except Failure β} {result : β} :
    source >>= next = .ok result ↔ ∃ value, source = .ok value ∧ next value = .ok result := by
  cases source with
  | error failure => simp [bind, Except.bind]
  | ok value => simp [bind, Except.bind]

theorem Except.map_eq_ok_iff {α β : Type} {source : Except Failure α} {f : α → β} {result : β} :
    source.map f = .ok result ↔ ∃ value, source = .ok value ∧ f value = result := by
  cases source with
  | error failure => simp [Except.map]
  | ok value => simp [Except.map]

@[simp] theorem Except.ok_bind {α β : Type} (value : α) (next : α → Except Failure β) :
    (.ok value >>= next) = next value := rfl

@[simp] theorem Except.error_bind {α β : Type} (failure : Failure) (next : α → Except Failure β) :
    (.error failure >>= next) = .error failure := rfl

theorem Except.toOption_eq_some_iff {α : Type} {source : Except Failure α} {value : α} :
    source.toOption = some value ↔ source = .ok value := by
  cases source with
  | error failure => simp [Except.toOption]
  | ok _ => simp [Except.toOption]

/-- Reading a list succeeds exactly if each of its items is read, in order. -/
theorem Except.mapM_eq_ok_iff {α β : Type} {read : α → Except Failure β} {sources : List α}
    {results : List β} : sources.mapM read = .ok results
      ↔ List.Forall₂ (fun source result => read source = .ok result) sources results := by
  induction sources generalizing results with
  | nil =>
      rw [List.mapM_nil, List.forall₂_nil_left_iff]
      exact ⟨fun ends => by cases ends; rfl, fun ends => ends ▸ rfl⟩
  | cons source rest ih =>
      rw [List.mapM_cons, Except.bind_eq_ok_iff, List.forall₂_cons_left_iff]
      constructor
      · intro given
        obtain ⟨first, readFirst, onward⟩ := given
        obtain ⟨others, readOthers, ends⟩ := Except.bind_eq_ok_iff.1 onward
        cases ends
        exact ⟨first, others, readFirst, ih.1 readOthers, rfl⟩
      · intro given
        obtain ⟨first, others, readFirst, readOthers, ends⟩ := given
        refine ⟨first, readFirst, Except.bind_eq_ok_iff.2 ⟨others, ih.2 readOthers, ?_⟩⟩
        exact congrArg Except.ok ends.symm

theorem exists_related_of_mem {α β : Type} {related : α → β → Prop} {sources : List α}
    {results : List β} (each : List.Forall₂ related sources results) {result : β}
    (member : result ∈ results) : ∃ source ∈ sources, related source result := by
  induction each with
  | nil => cases member
  | cons first _ ih =>
      rcases List.mem_cons.1 member with rfl | member
      · exact ⟨_, .head _, first⟩
      · obtain ⟨source, sourceMember, isRelated⟩ := ih member
        exact ⟨source, .tail _ sourceMember, isRelated⟩

theorem Except.exists_mem_of_mapM_ok {α β : Type} {read : α → Except Failure β}
    {sources : List α} {results : List β} (succeeds : sources.mapM read = .ok results)
    {result : β} (member : result ∈ results) : ∃ source ∈ sources, read source = .ok result :=
  exists_related_of_mem (Except.mapM_eq_ok_iff.1 succeeds) member

/-- What an operation fails with that finds a value it has no use for. -/
inductive Failure.Unfit : Failure → Prop where
  | wrongKind : Unfit .wrongKind
  | badValue : Unfit .badValue

/-- There is a result under a condition, and otherwise the failure of an unfit value. -/
structure ReturnsIf {α : Type} (outcome : Except Failure α) (condition : Prop) : Prop where
  returns : condition → ∃ value, outcome = .ok value
  fails : ¬ condition → ∃ failure, outcome = .error failure ∧ failure.Unfit

namespace ReturnsIf

variable {α β : Type} {source : Except Failure α} {next : α → Except Failure β}
  {condition other : Prop}

theorem always (succeeds : ∃ value, source = .ok value) : ReturnsIf source True :=
  ⟨fun _ => succeeds, fun never => absurd trivial never⟩

theorem ok (value : α) (given : condition) : ReturnsIf (.ok value) condition :=
  ⟨fun _ => ⟨value, rfl⟩, fun never => absurd given never⟩

theorem error {failure : Failure} (unfit : failure.Unfit) (never : ¬ condition) :
    ReturnsIf (.error failure : Except Failure α) condition :=
  ⟨fun given => absurd given never, fun _ => ⟨failure, rfl, unfit⟩⟩

theorem guarded [Decidable condition] (value : α) {failure : Failure} (unfit : failure.Unfit) :
    ReturnsIf (if condition then .ok value else .error failure) condition := by
  split
  · exact ok value ‹condition›
  · exact error unfit ‹¬ condition›

theorem congr (returns : ReturnsIf source condition) (same : condition ↔ other) :
    ReturnsIf source other :=
  propext same ▸ returns

theorem bind {onward : α → Prop} (first : ReturnsIf source condition)
    (second : ∀ value, source = .ok value → ReturnsIf (next value) (onward value)) :
    ReturnsIf (source >>= next) (∃ value, source = .ok value ∧ onward value) := by
  constructor
  · intro given
    obtain ⟨value, isValue, goes⟩ := given
    rw [isValue, Except.ok_bind]
    exact (second value isValue).returns goes
  · intro never
    by_cases given : condition
    · obtain ⟨value, isValue⟩ := first.returns given
      rw [isValue, Except.ok_bind]
      exact (second value isValue).fails fun goes => never ⟨value, isValue, goes⟩
    · obtain ⟨failure, fails, unfit⟩ := first.fails given
      rw [fails, Except.error_bind]
      exact ⟨failure, rfl, unfit⟩

/-- Going on under a condition that does not depend on the value. -/
theorem and (first : ReturnsIf source condition)
    (second : ∀ value, source = .ok value → ReturnsIf (next value) other) :
    ReturnsIf (source >>= next) (condition ∧ other) := by
  refine (first.bind second).congr ⟨fun given => ?_, fun given => ?_⟩
  · obtain ⟨value, isValue, goes⟩ := given
    refine ⟨?_, goes⟩
    by_contra never
    obtain ⟨_, fails, _⟩ := first.fails never
    cases isValue.symm.trans fails
  · obtain ⟨value, isValue⟩ := first.returns given.1
    exact ⟨value, isValue, given.2⟩

/-- The last step of an operation that fails only before. -/
theorem map (first : ReturnsIf source condition) (f : α → β) :
    ReturnsIf (source >>= fun value => .ok (f value)) condition :=
  (first.and fun _ _ => ok _ trivial).congr (and_iff_left trivial)

theorem returns_iff (returns : ReturnsIf source condition) :
    (∃ value, source = .ok value) ↔ condition := by
  refine ⟨fun given => ?_, returns.returns⟩
  by_contra never
  obtain ⟨value, isValue⟩ := given
  obtain ⟨_, fails, _⟩ := returns.fails never
  cases isValue.symm.trans fails

/-- A list is read if each of its items is. -/
theorem mapM {read : α → Except Failure β} {good : α → Prop} {sources : List α}
    (each : ∀ source ∈ sources, ReturnsIf (read source) (good source)) :
    ReturnsIf (sources.mapM read) (∀ source ∈ sources, good source) := by
  induction sources with
  | nil => exact ok [] (by simp)
  | cons source rest ih =>
      have others := ih fun later member => each later (.tail _ member)
      rw [List.mapM_cons, List.forall_mem_cons]
      exact (each source (.head _)).and fun first _ => others.map (List.cons first)

theorem mapM_succeeds {read : α → Except Failure β} {sources : List α}
    (each : ∀ source ∈ sources, ∃ result, read source = .ok result) :
    ∃ results, sources.mapM read = .ok results :=
  (mapM fun source member => always (each source member)).returns fun _ _ => trivial

end ReturnsIf

namespace Report

variable {α β : Type}

@[simp] theorem outcome_pure (value : α) : (pure value : Report α).outcome = .ok value := rfl

@[simp] theorem outcome_done (value : α) : (done value).outcome = .ok value := rfl

@[simp] theorem outcome_note (notice : Notice) : (note notice).outcome = .ok () := rfl

@[simp] theorem outcome_ofExcept (outcome : Except Failure α) :
    (ofExcept outcome).outcome = outcome := rfl

theorem done_bind (value : α) (next : α → Report β) : (done value >>= next) = next value := rfl

@[simp] theorem outcome_bind (report : Report α) (next : α → Report β) :
    (report >>= next).outcome = report.outcome >>= fun value => (next value).outcome := by
  obtain ⟨notices, outcome⟩ := report
  cases outcome <;> rfl

@[simp] theorem outcome_andThen (report : Report α) (next : α → Report β) :
    (report.andThen next).outcome = report.outcome >>= fun value => (next value).outcome :=
  outcome_bind report next

theorem bind_assoc {γ : Type} (report : Report α) (next : α → Report β) (last : β → Report γ) :
    report >>= next >>= last = report >>= fun value => next value >>= last := by
  obtain ⟨notices, outcome⟩ := report
  cases outcome with
  | error failure => rfl
  | ok value =>
      show andThen (andThen ⟨notices, .ok value⟩ next) last
        = andThen ⟨notices, .ok value⟩ fun value => andThen (next value) last
      cases onward : (next value).outcome <;>
        simp only [andThen, onward, List.append_assoc]

theorem notices_bind_of_ok {report : Report α} (next : α → Report β) {value : α}
    (succeeds : report.outcome = .ok value) :
    (report >>= next).notices = report.notices ++ (next value).notices := by
  obtain ⟨notices, outcome⟩ := report
  cases succeeds
  rfl

/-- Going on gives the same if it depends on a part of the results only in which they agree. -/
theorem bind_congr {γ : Type} {first second : Report α} {shape : α → γ}
    {next : α → Report β} (notices : first.notices = second.notices)
    (outcome : first.outcome.map shape = second.outcome.map shape)
    (depends : ∀ value other, shape value = shape other → next value = next other) :
    first >>= next = second >>= next := by
  obtain ⟨firstNotices, firstOutcome⟩ := first
  obtain ⟨secondNotices, secondOutcome⟩ := second
  cases notices
  cases firstOutcome <;> cases secondOutcome <;>
    simp only [Except.map, reduceCtorEq, Except.error.injEq, Except.ok.injEq] at outcome
  · rw [outcome]
  · rename_i value other
    show mk _ (next value).outcome = mk _ (next other).outcome
    rw [depends value other outcome]

@[simp] theorem notices_pure (value : α) : (pure value : Report α).notices = [] := rfl

end Report

end PipelineOverride
