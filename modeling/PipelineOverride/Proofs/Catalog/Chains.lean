import Mathlib.Data.List.Chain
import PipelineOverride.Proofs.Catalog.Scope

/-!
# Chains of ids

A built-in task uses an option if there is a chain of ids to it: the first one is listed by the
task, and each next one stands in some case of the option of the one before it. The options that a
catalog gives out for a task are the defined ones to which there is such a chain. Chains may pass an
id again, so there may be infinitely many of them; the worklist ends all the same.
-/

set_option autoImplicit false

namespace PipelineOverride

/-- An id stands in the options of some case of the option of another id. -/
def Registry.Leads (registry : Registry) (id next : Scalar) : Prop :=
  ∃ definition choice, registry.lookup id = some definition
    ∧ definition.choice? = some choice ∧ ∃ branch ∈ choice.cases, .scalar next ∈ branch.options

/-- Ids in a row, from one that is listed to a last one. -/
structure IdChain (registry : Registry) (references : List Document) (ids : List Scalar)
    (last : Scalar) : Prop where
  starts : ∃ first, ids.head? = some first ∧ .scalar first ∈ references
  leads : ids.IsChain (Registry.Leads registry)
  ends : ids.getLast? = some last

variable {registry : Registry} {references : List Document} {ids : List Scalar}
  {id next : Scalar} {catalog : Catalog} {task : Task}

theorem Document.scalar?_eq_some_iff {document : Document} :
    document.scalar? = some id ↔ document = .scalar id := by
  cases document <;> simp [scalar?]

theorem Registry.leads_iff : Registry.Leads registry id next
    ↔ ∃ definition, registry.lookup id = some definition
      ∧ .scalar next ∈ definition.references := by
  constructor
  · intro given
    obtain ⟨definition, choice, found, isChoice, branch, isCase, member⟩ := given
    refine ⟨definition, found, List.mem_flatMap.2 ⟨branch, ?_, member⟩⟩
    rw [OptionDefinition.cases, isChoice]
    exact isCase
  · intro given
    obtain ⟨definition, found, member⟩ := given
    obtain ⟨branch, isCase, member⟩ := List.mem_flatMap.1 member
    cases isChoice : definition.choice? with
    | none => simp [OptionDefinition.cases, isChoice] at isCase
    | some choice =>
        rw [OptionDefinition.cases, isChoice] at isCase
        exact ⟨definition, choice, found, isChoice, branch, isCase, member⟩

theorem IdChain.extend (chain : IdChain registry references ids id)
    (leads : Registry.Leads registry id next) :
    IdChain registry references (ids ++ [next]) next := by
  obtain ⟨first, isFirst, listed⟩ := chain.starts
  constructor
  case starts =>
    refine ⟨first, ?_, listed⟩
    rw [List.head?_append, isFirst, Option.some_or]
  case leads =>
    refine List.isChain_append.2 ⟨chain.leads, List.isChain_singleton next, ?_⟩
    intro last isLast other isOther
    rw [chain.ends] at isLast
    cases isLast
    cases isOther
    exact leads
  case ends => exact List.getLast?_concat

/-- A chain is cut off at its end. What is left is a chain to the id before the last one. -/
theorem reachable_of_idChain (chain : IdChain registry references ids id) :
    Reachable registry references id := by
  induction ids using List.reverseRecOn generalizing id with
  | nil => exact absurd chain.ends (by simp)
  | append_singleton before last ih =>
      obtain rfl : last = id := by simpa using chain.ends
      obtain ⟨first, isFirst, listed⟩ := chain.starts
      obtain ⟨leadsBefore, _, leads⟩ := List.isChain_append.1 chain.leads
      cases isLast : before.getLast? with
      | none =>
          rw [List.getLast?_eq_none_iff.1 isLast] at isFirst
          cases isFirst
          exact .listed listed rfl
      | some passed =>
          have nonempty : before ≠ [] := by
            rintro rfl
            cases isLast
          rw [List.head?_append_of_ne_nil _ nonempty] at isFirst
          obtain ⟨definition, found, member⟩ :=
            Registry.leads_iff.1 (leads passed isLast last rfl)
          exact (ih ⟨⟨first, isFirst, listed⟩, leadsBefore, isLast⟩).nested found member rfl

theorem reachable_iff_idChain :
    Reachable registry references id ↔ ∃ ids, IdChain registry references ids id := by
  constructor
  · intro reachable
    induction reachable with
    | @listed reference id member isId =>
        rw [Document.scalar?_eq_some_iff.1 isId] at member
        exact ⟨[id], ⟨id, rfl, member⟩, List.isChain_singleton id, rfl⟩
    | @nested id definition reference nested _ found member isId ih =>
        obtain ⟨ids, chain⟩ := ih
        rw [Document.scalar?_eq_some_iff.1 isId] at member
        exact ⟨ids ++ [nested], chain.extend (Registry.leads_iff.2 ⟨definition, found, member⟩)⟩
  · intro given
    obtain ⟨ids, chain⟩ := given
    exact reachable_of_idChain chain

/-- In a valid catalog all ids that a task can reach are texts, and texts are one key only if they
are equal. -/
theorem Catalog.Valid.exists_reachable_iff (valid : catalog.Valid) (member : task ∈ catalog.tasks) :
    (∃ other, Reachable catalog.options task.options other ∧ other.same id = true)
      ↔ ∃ ids, IdChain catalog.options task.options ids id := by
  rw [← reachable_iff_idChain]
  constructor
  · intro given
    obtain ⟨other, reachable, same⟩ := given
    obtain ⟨name, rfl⟩ := valid.reachable_text member reachable
    rwa [Scalar.eq_text_of_same same]
  · exact fun reachable => ⟨id, reachable, Scalar.same_self id⟩

theorem Worklist.size_start (registry : Registry) (references : List Document) :
    Worklist.size registry ⟨[], references⟩
      = references.length + (registry.map fun entry => entry.2.references.length).sum := by
  simp [size, unseenReferences]

namespace Catalog

/-- The options that a valid catalog gives out for a task are exactly those to which there is a
chain of ids. For every task the worklist ends, whatever reference it takes next: it makes at most
as many steps as there are references, and once it can make none it has seen the ids to which there
is a chain. The ids that count are those of one such run. -/
theorem taskOption?_exact (valid : catalog.Valid) (name : String) (id : Scalar) :
    (∀ task, catalog.task? name = some task →
      (∀ count list, Worklist.Run catalog.options count ⟨[], task.options⟩ list →
        count ≤ task.options.length
            + (catalog.options.map fun entry => entry.2.references.length).sum
          ∧ ((∀ next, ¬ Worklist.Step catalog.options list next) →
            ∀ other, Seen list.seen other
              ↔ ∃ ids, IdChain catalog.options task.options ids other))
      ∧ ∃ count, Worklist.Run catalog.options count ⟨[], task.options⟩
          ⟨catalog.reachable name, []⟩)
      ∧ ((catalog.taskOption? name id).isSome ↔ ∃ task ∈ catalog.tasks, task.name = name
        ∧ (catalog.options.lookup id).isSome
        ∧ ∃ ids, IdChain catalog.options task.options ids id)
      ∧ ∀ definition, catalog.taskOption? name id = some definition →
        catalog.options.lookup id = some definition := by
  refine ⟨fun task found => ⟨fun count list run => ⟨?_, fun done other => ?_⟩, ?_⟩, ?_, ?_⟩
  · rw [← Worklist.size_start]
    exact run.count_le
  · have none : list.pending = [] := by
      by_contra left
      obtain ⟨next, step⟩ := Worklist.exists_step left
      exact done next step
    rw [((Worklist.Faithful.start catalog.options task.options).run run).seen_iff none]
    exact valid.exists_reachable_iff (List.mem_of_find?_eq_some found)
  · rw [reachable, found]
    exact exists_run_reach catalog.options [] task.options
  · constructor
    · intro inScope
      obtain ⟨definition, isOption⟩ := Option.isSome_iff_exists.1 inScope
      cases found : catalog.task? name with
      | none => simp [taskOption?, reachable, found] at isOption
      | some task =>
          have member := List.mem_of_find?_eq_some found
          have named := List.find?_some found
          obtain ⟨reached, defined⟩ := (taskOption?_eq_some_iff found).1 isOption
          exact ⟨task, member, of_decide_eq_true named, by rw [defined]; rfl,
            (valid.exists_reachable_iff member).1 reached⟩
    · intro given
      obtain ⟨task, member, rfl, defined, chain⟩ := given
      obtain ⟨definition, isOption⟩ := Option.isSome_iff_exists.1 defined
      rw [(taskOption?_eq_some_iff (valid.task?_of_mem member)).2
        ⟨(valid.exists_reachable_iff member).2 chain, isOption⟩]
      rfl
  · intro definition isOption
    cases found : catalog.task? name with
    | none => simp [taskOption?, reachable, found] at isOption
    | some task => exact ((taskOption?_eq_some_iff found).1 isOption).2

end Catalog

/-- The form is in the scope of the task of the loop, also by way of a chain that goes through the
loop twice. No run of the worklist makes more than four steps. -/
theorem loopCatalog_exact :
    loopCatalog.Valid
      ∧ (∀ count list, Worklist.Run loopCatalog.options count ⟨[], [.text "A"]⟩ list → count ≤ 4)
      ∧ IdChain loopCatalog.options [.text "A"]
        [.text "A", .text "B", .text "A", .text "B", .text "F"] (.text "F")
      ∧ (loopCatalog.taskOption? "T" (.text "F")).isSome := by
  have fromA : Registry.Leads loopCatalog.options (.text "A") (.text "B") :=
    Registry.leads_iff.2 ⟨_, rfl, .head _⟩
  have back : Registry.Leads loopCatalog.options (.text "B") (.text "A") :=
    Registry.leads_iff.2 ⟨_, rfl, .head _⟩
  have onward : Registry.Leads loopCatalog.options (.text "B") (.text "F") :=
    Registry.leads_iff.2 ⟨_, rfl, .tail _ (.head _)⟩
  have chain : IdChain loopCatalog.options [.text "A"]
      [.text "A", .text "B", .text "A", .text "B", .text "F"] (.text "F") := by
    constructor
    case starts => exact ⟨.text "A", rfl, .head _⟩
    case leads => simp [List.isChain_cons_cons, fromA, back, onward]
    case ends => rfl
  obtain ⟨ends, inScope, _⟩ :=
    Catalog.taskOption?_exact loopCatalog_valid "T" (.text "F")
  refine ⟨loopCatalog_valid, fun count list run => ((ends _ rfl).1 count list run).1, chain, ?_⟩
  exact inScope.2 ⟨_, .head _, rfl, rfl, _, chain⟩

end PipelineOverride
