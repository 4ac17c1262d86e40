import Mathlib.Data.List.Induction
import PipelineOverride.Proofs.Resolution.Step

/-!
# Resolution ends

A run of the recursion is given by a rule for each thing that a call can do, without any measure
that falls from call to call. That a run exists is therefore something to prove: on every registry,
whatever cycles its references make, there is exactly one finite run, and its events are those of
the walk. All of its calls stand below paths without repetition, so they are never nested deeper
than one more than the registry has entries.
-/

set_option autoImplicit false

namespace PipelineOverride

/-- A finite run of the recursion over references below a path, with its events. Every call of the
run stands below an allowed path. -/
inductive WalksTo (registry : Registry) (selections : SelectionStore)
    (allowed : List Scalar → Prop) : List Scalar → List Document → List Event → Prop where
  | nil {path : List Scalar} : allowed path → WalksTo registry selections allowed path [] []
  | refuse {path : List Scalar} {reference : Document} {rest : List Document}
      {beside : List Event} : allowed path → arrive? registry path reference = none →
      WalksTo registry selections allowed path rest beside →
      WalksTo registry selections allowed path (reference :: rest)
        (refusal registry path reference :: beside)
  | visit {path : List Scalar} {reference : Document} {rest : List Document} {site : Site}
      {below beside : List Event} : allowed path → arrive? registry path reference = some site →
      WalksTo registry selections allowed (path ++ [site.id])
        (visit selections site.id site.definition).2 below →
      WalksTo registry selections allowed path rest beside →
      WalksTo registry selections allowed path (reference :: rest)
        ((visit selections site.id site.definition).1 ++ below ++ beside)

/-- A path that holds defined ids only, none of them twice. -/
structure Registry.Traces (registry : Registry) (path : List Scalar) : Prop where
  distinct : path.Pairwise fun earlier later => ¬ earlier.same later = true
  defined : ∀ id ∈ path, (registry.lookup id).isSome = true

variable {registry : Registry} {selections : SelectionStore} {path : List Scalar}
  {references : List Document} {reference : Document} {site : Site} {events : List Event}

theorem Registry.traces_nil (registry : Registry) : registry.Traces [] :=
  ⟨List.Pairwise.nil, fun _ member => (List.not_mem_nil member).elim⟩

theorem Registry.traces_append_iff {id : Scalar} :
    registry.Traces (path ++ [id]) ↔ registry.Traces path
      ∧ (registry.lookup id).isSome = true ∧ ¬ (path.any fun p => p.same id) = true := by
  constructor
  · intro traces
    obtain ⟨distinct, defined⟩ := traces
    rw [List.pairwise_append] at distinct
    obtain ⟨distinct, -, apart⟩ := distinct
    refine ⟨⟨distinct, fun other member => ?_⟩, ?_, ?_⟩
    · exact defined other (List.mem_append_left _ member)
    · apply defined
      simp
    · intro onPath
      obtain ⟨other, member, same⟩ := List.any_eq_true.1 onPath
      exact apart other member id (List.mem_singleton_self id) same
  · intro given
    obtain ⟨⟨distinct, defined⟩, found, fresh⟩ := given
    constructor
    · rw [List.pairwise_append]
      refine ⟨distinct, List.pairwise_singleton .., fun other member last isLast same => ?_⟩
      rw [List.mem_singleton.1 isLast] at same
      exact fresh (List.any_eq_true.2 ⟨other, member, same⟩)
    · intro other member
      rcases List.mem_append.1 member with earlier | last
      · exact defined other earlier
      · rw [List.mem_singleton.1 last]
        exact found

/-- Arriving at a site makes the path longer by an id that is defined and not on it. -/
theorem Registry.Traces.arrive (traces : registry.Traces path)
    (arrived : arrive? registry path reference = some site) :
    registry.Traces (path ++ [site.id]) := by
  obtain ⟨-, found, fresh⟩ := arrive?_eq_some_iff.1 arrived
  exact Registry.traces_append_iff.2 ⟨traces, by rw [found]; rfl, fresh⟩

/-- Each id of a path takes an entry of the registry away from those that are off the path. -/
theorem Registry.Traces.length_add_le (traces : registry.Traces path) :
    path.length + (idsOffPath registry path).length ≤ registry.length := by
  induction path using List.reverseRecOn with
  | nil =>
      have all : (idsOffPath registry []).length ≤ registry.keys.length :=
        List.length_filter_le _ _
      simpa [Table.keys] using all
  | append_singleton path id ih =>
      obtain ⟨earlier, found, fresh⟩ := Registry.traces_append_iff.1 traces
      obtain ⟨definition, found⟩ := Option.isSome_iff_exists.1 found
      have fewer := idsOffPath_length_lt found fresh
      have bound := ih earlier
      rw [List.length_append, List.length_singleton]
      omega

theorem Registry.Traces.length_le (traces : registry.Traces path) :
    path.length ≤ registry.length := by
  have bound := traces.length_add_le
  omega

/-!
## Runs
-/

variable {allowed : List Scalar → Prop}

/-- The walk is a run of the recursion, whose paths hold defined ids only and none of them twice. -/
theorem walksTo_walk (allows : ∀ path, registry.Traces path → allowed path)
    (traces : registry.Traces path) (references : List Document) :
    WalksTo registry selections allowed path references
      (walk registry selections path references) := by
  induction path, references using walk_induction registry selections with
  | nil path =>
      rw [walk_nil]
      exact .nil (allows path traces)
  | cons path reference rest below beside =>
      have isAllowed := allows path traces
      rw [walk_cons]
      cases arrived : arrive? registry path reference with
      | none => exact .refuse isAllowed arrived (beside traces)
      | some site =>
          have deeper : WalksTo registry selections allowed (path ++ [site.id])
              (visit selections site.id site.definition).2
              (walk registry selections (path ++ [site.id]) (site.next selections)) := by
            rw [(visit_spec selections site).2]
            exact below site arrived (traces.arrive arrived)
          exact .visit isAllowed arrived deeper (beside traces)

theorem WalksTo.eq_walk (run : WalksTo registry selections allowed path references events) :
    events = walk registry selections path references := by
  induction run with
  | nil => rw [walk_nil]
  | refuse _ arrived _ ih => rw [walk_cons, arrived, ih, List.singleton_append]
  | @visit _ _ _ site _ _ _ arrived _ _ ihBelow ihBeside =>
      rw [walk_cons, arrived, ihBelow, ihBeside, (visit_spec selections site).2]

/-- Resolution ends on every registry, cyclic or not. The recursion over the references has exactly
one finite run, from whose events the fragments and notices are taken. In this run every path is
free of repetition and holds defined ids only, so that calls are nested at most one deeper than the
registry has entries. -/
theorem resolution_ends (registry : Registry) (selections : SelectionStore)
    (references : List Document) :
    ∃ events,
      WalksTo registry selections
        (fun path => registry.Traces path ∧ path.length + 1 ≤ registry.length + 1) [] references
        events
      ∧ (∀ other, WalksTo registry selections (fun _ => True) [] references other →
        other = events)
      ∧ resolve registry selections references = Event.report events := by
  refine ⟨_, walksTo_walk ?_ registry.traces_nil references, fun _ run => run.eq_walk, rfl⟩
  intro path traces
  exact ⟨traces, Nat.succ_le_succ traces.length_le⟩

end PipelineOverride
