import PipelineOverride.Proofs.Compilation.Returns
import PipelineOverride.Proofs.Resolution.Muting
import PipelineOverride.Proofs.Substitution.Dropping

/-!
# Failed substitutions

A value that does not fit its slot drops the fragment of its option and nothing else. Compilation
has the same outcome as if the templates of the options with such values were null, and it warns
once of every fragment that it drops. An option may be reached on several ways; as its definition
and its values are the same on each, either all of its fragments are dropped or none is.
-/

set_option autoImplicit false

namespace PipelineOverride

/-- Whether a notice warns of something during compilation. For a task that there is, only dropped
fragments give such notices. -/
def Notice.isDrop (notice : Notice) : Bool :=
  notice.level = .warning && notice.topic = .compiler

variable {fragment : Fragment} {pieces : List Fragment} {rendered : List Document}

/-!
## Options that fail
-/

/-- The ids of the fragments that cannot be filled. -/
def failingIds (fragments : List Fragment) : List Scalar :=
  (fragments.filter fun fragment => fragment.slotError?.isSome).map Fragment.id

theorem Site.fragment?_id {selections : SelectionStore} {site : Site}
    (found : site.fragment? selections = some fragment) : fragment.id = site.id := by
  rw [Site.fragment?] at found
  split at found
  · obtain ⟨_, _, rfl⟩ := Option.map_eq_some_iff.1 found
    rfl
  · obtain ⟨_, _, found⟩ := Option.bind_eq_some_iff.1 found
    obtain ⟨_, _, rfl⟩ := Option.map_eq_some_iff.1 found
    rfl

/-- Whenever an option is visited again, its fragment fails as it did before. -/
theorem Site.slotError?_eq_of_same {registry : Registry} {selections : SelectionStore}
    {site other : Site} {otherFragment : Fragment}
    (found : registry.lookup site.id = some site.definition)
    (otherFound : registry.lookup other.id = some other.definition)
    (same : site.id.same other.id = true) (isFragment : site.fragment? selections = some fragment)
    (isOther : other.fragment? selections = some otherFragment) :
    fragment.slotError? = otherFragment.slotError? := by
  have definition : site.definition = other.definition := by
    rw [Table.lookup_congr same, otherFound] at found
    exact (Option.some.inj found).symm
  have value : site.value selections = other.value selections := by
    simp only [Site.value, effectiveValue, Table.lookup_congr same, definition]
  rcases other.definition.choice_or_form with hasCases | ⟨form, isForm⟩
  · rw [Site.fragment?_choice hasCases] at isOther
    rw [Site.fragment?_choice (definition ▸ hasCases)] at isFragment
    obtain ⟨_, _, isStatic⟩ := Option.bind_eq_some_iff.1 isFragment
    obtain ⟨_, _, isStaticOther⟩ := Option.bind_eq_some_iff.1 isOther
    obtain ⟨_, _, rfl⟩ := Option.map_eq_some_iff.1 isStatic
    obtain ⟨_, _, rfl⟩ := Option.map_eq_some_iff.1 isStaticOther
    rfl
  · have kind := (Site.live_of_fragment? isOther).kind
    rw [isForm] at kind
    obtain ⟨values, entered⟩ := OptionValue.eq_input_of_kind kind
    rw [Site.fragment?_form isForm entered] at isOther
    rw [Site.fragment?_form (definition.trans isForm) (value.trans entered)] at isFragment
    obtain ⟨body, isBody, rfl⟩ := Option.map_eq_some_iff.1 isFragment
    obtain ⟨_, isBody', rfl⟩ := Option.map_eq_some_iff.1 isOther
    cases isBody.symm.trans isBody'
    rfl

theorem survives_failingIds {registry : Registry} {selections : SelectionStore}
    {references : List Document}
    (isWalk : pieces = (walk registry selections [] references).filterMap Event.fragment?) :
    ∀ fragment ∈ pieces,
      fragment.survives (failingIds pieces) = fragment.slotError?.isNone := by
  intro fragment member
  cases isTemplate : fragment with
  | static id payload => rfl
  | template id body slots values =>
      rw [← isTemplate]
      have failing : ((failingIds pieces).any fun other => other.same fragment.id) = true
          ↔ fragment.slotError?.isSome = true := by
        rw [List.any_eq_true]
        constructor
        · intro given
          obtain ⟨_, isFailing, same⟩ := given
          obtain ⟨other, otherMember, rfl⟩ := List.mem_map.1 isFailing
          obtain ⟨otherMember, fails⟩ := List.mem_filter.1 otherMember
          rw [isWalk] at member otherMember
          obtain ⟨site, found, isFragment⟩ := exists_site_of_mem_walk [] references member
          obtain ⟨otherSite, otherFound, isOther⟩ :=
            exists_site_of_mem_walk [] references otherMember
          rw [Site.fragment?_id isFragment, Site.fragment?_id isOther] at same
          rw [← Site.slotError?_eq_of_same otherFound found same isOther isFragment]
          exact fails
        · intro fails
          exact ⟨fragment.id, List.mem_map_of_mem (List.mem_filter.2 ⟨member, fails⟩),
            Scalar.same_self _⟩
      have survives : fragment.survives (failingIds pieces)
          = !(failingIds pieces).any fun other => other.same fragment.id := by
        rw [isTemplate]
        rfl
      rw [survives, Bool.eq_iff_iff.2 failing]
      cases fragment.slotError? <;> rfl

/-!
## Compilation
-/

namespace Event

theorem report_topic (events : List Event) :
    ∀ notice ∈ (report events).notices, notice.topic = .resolver := by
  induction events with
  | nil => exact fun _ member => (List.not_mem_nil member).elim
  | cons event rest ih =>
      intro notice member
      cases ends : event.halts with
      | true =>
          rw [report_cons_of_halts ends] at member
          cases member
      | false =>
          rw [report_cons ends] at member
          rcases List.mem_append.1 member with own | later
          · cases event <;> cases own <;> first | rfl | contradiction
          · exact ih notice later

end Event

def TaskContext.mute (ids : List Scalar) (context : TaskContext) : TaskContext :=
  { context with registry := context.registry.mute ids }

namespace Compiler

/-- The compiler with the templates of some input options set to null. -/
def mute (ids : List Scalar) (compiler : Compiler) : Compiler where
  project := compiler.project.map fun project =>
    { project with options := Registry.mute ids project.options }
  catalog := { compiler.catalog with options := Registry.mute ids compiler.catalog.options }
  settings := compiler.settings

variable {compiler : Compiler} {selected : SelectedTask} {context : TaskContext}

theorem builtinRegistry_mute (ids : List Scalar) (compiler : Compiler) :
    (compiler.mute ids).builtinRegistry = Registry.mute ids compiler.builtinRegistry := by
  obtain ⟨project, catalog, settings⟩ := compiler
  cases project with
  | none => rfl
  | some project => exact Table.union_mapEntries OptionDefinition.mutedAt_congr _ _

theorem context?_mute (ids : List Scalar) (compiler : Compiler) (name : String) :
    (compiler.mute ids).context? name = (compiler.context? name).map (TaskContext.mute ids) := by
  have sameTask : (compiler.mute ids).catalog.task? name = compiler.catalog.task? name := rfl
  rw [context?, context?, sameTask, builtinRegistry_mute]
  cases compiler.catalog.task? name with
  | some task => rfl
  | none =>
      obtain ⟨project, catalog, settings⟩ := compiler
      cases project with
      | none => rfl
      | some project =>
          have same : Project.task? { project with options := Registry.mute ids project.options }
              name = project.task? name := rfl
          simp only [mute, Option.map_some, Option.bind_eq_bind, Option.bind_some, same]
          cases project.task? name <;> rfl

end Compiler

/-- With the failing options muted a resolution gives the fragments without slot errors. -/
theorem resolve_mute_failing {registry : Registry} {selections : SelectionStore}
    {references : List Document}
    (resolved : (resolve registry selections references).outcome = .ok pieces) :
    resolve (registry.mute (failingIds pieces)) selections references
      = ⟨(resolve registry selections references).notices,
          .ok (pieces.filter fun fragment => fragment.slotError?.isNone)⟩ := by
  have survivors : pieces.filter (Fragment.survives (failingIds pieces))
      = pieces.filter fun fragment => fragment.slotError?.isNone :=
    List.filter_congr (survives_failingIds (resolve_eq_ok resolved))
  rw [resolve_mute, resolved, ← survivors]
  rfl

namespace Compiler

variable {compiler : Compiler} {selected : SelectedTask} {context : TaskContext}

theorem fragments_mute_outcome (context : TaskContext) (selections : SelectionStore) :
    (fragments (context.mute (failingIds ((walk context.registry selections []
        context.task.options).filterMap Event.fragment?))) selections).outcome
      = (fragments context selections).outcome := by
  rw [fragments_outcome, fragments_outcome]
  cases resolved : (resolve context.registry selections context.task.options).outcome with
  | error failure =>
      simp only [TaskContext.mute, resolve_mute, resolved]
      rfl
  | ok found =>
      rw [← resolve_eq_ok resolved]
      simp only [TaskContext.mute, resolve_mute_failing resolved, Except.ok_bind,
        renderFragments_outcome_filter]

/-- Where the fragments of a task can be rendered, one notice for each dropped fragment comes after
those that are given with the failing options muted as well. -/
theorem fragments_mute_notices {selections : SelectionStore}
    (returns : (fragments context selections).outcome = .ok rendered)
    (isWalk : pieces
      = (walk context.registry selections [] context.task.options).filterMap Event.fragment?) :
    rendered = pieces.filterMap Fragment.kept?
      ∧ (fragments context selections).notices
        = (fragments (context.mute (failingIds pieces)) selections).notices
          ++ pieces.filterMap Fragment.dropNotice?
      ∧ ∀ notice ∈ (fragments (context.mute (failingIds pieces)) selections).notices,
        notice.isDrop = false := by
  rw [fragments_outcome, Except.bind_eq_ok_iff] at returns
  obtain ⟨found, resolved, returns⟩ := returns
  obtain rfl : found = pieces := (resolve_eq_ok resolved).trans isWalk.symm
  obtain ⟨isRendered, warns⟩ := renderFragments_of_returns returns
  obtain ⟨_, quiet⟩ :=
    renderFragments_of_returns ((renderFragments_outcome_filter found).trans returns)
  have muted : (fragments (context.mute (failingIds found)) selections).notices
      = (resolve context.registry selections context.task.options).notices := by
    simp only [fragments, TaskContext.mute, resolve_mute_failing resolved]
    rw [Report.notices_bind_of_ok _ rfl, quiet, filterMap_dropNotice?_filter, List.append_nil]
  rw [muted]
  refine ⟨isRendered, ?_, fun notice member => ?_⟩
  · rw [fragments, Report.notices_bind_of_ok _ resolved, warns]
  · have topic := Event.report_topic _ notice member
    simp [Notice.isDrop, topic]

/-- The ids of the input options that are visited with a value that does not fit its slot. -/
def failing (compiler : Compiler) (selected : SelectedTask) : List Scalar :=
  failingIds (compiler.visited selected)

end Compiler

theorem dropNotice?_isDrop {notice : Notice}
    (member : notice ∈ pieces.filterMap Fragment.dropNotice?) : notice.isDrop = true := by
  obtain ⟨fragment, _, isNotice⟩ := List.mem_filterMap.1 member
  obtain ⟨_, _, rfl⟩ := Option.map_eq_some_iff.1 isNotice
  rfl

/-- Drop notices between others are told apart from them. -/
theorem filter_isDrop {before drops after : List Notice}
    (isBefore : ∀ notice ∈ before, notice.isDrop = false)
    (isDrop : ∀ notice ∈ drops, notice.isDrop = true)
    (isAfter : ∀ notice ∈ after, notice.isDrop = false) :
    (before ++ drops ++ after).filter (!·.isDrop) = before ++ after
      ∧ (before ++ drops ++ after).filter Notice.isDrop = drops := by
  constructor
  · rw [List.filter_append, List.filter_append,
      List.filter_eq_self.2 fun notice member => by simp [isBefore notice member],
      List.filter_eq_nil_iff.2 fun notice member => by simp [isDrop notice member],
      List.filter_eq_self.2 fun notice member => by simp [isAfter notice member], List.append_nil]
  · rw [List.filter_append, List.filter_append,
      List.filter_eq_nil_iff.2 fun notice member => by simp [isBefore notice member],
      List.filter_eq_self.2 isDrop,
      List.filter_eq_nil_iff.2 fun notice member => by simp [isAfter notice member],
      List.nil_append, List.append_nil]

/-- Failed substitutions are contained. Compilation has the outcome that it has with the templates
of the failing options set to null. If nothing else fails, the fragments without a slot error are
rendered in their order, and the notices are those that are given with the failing options muted
and one drop notice for each dropped fragment. -/
theorem compile_contains_failures (compiler : Compiler) (selected : SelectedTask)
    (requested : Option OutputMode) :
    let muted := compiler.mute (compiler.failing selected)
    (muted.compile selected requested).outcome = (compiler.compile selected requested).outcome
      ∧ ∀ context rendered, compiler.context? selected.taskName = some context →
        (Compiler.fragments context selected.values).outcome = .ok rendered →
        rendered = (compiler.visited selected).filterMap Fragment.kept?
        ∧ (muted.compile selected requested).notices
          = (compiler.compile selected requested).notices.filter (!·.isDrop)
        ∧ (compiler.compile selected requested).notices.filter Notice.isDrop
          = (compiler.visited selected).filterMap Fragment.dropNotice? := by
  intro muted
  cases found : compiler.context? selected.taskName with
  | none =>
      have missing : muted.context? selected.taskName = none := by
        rw [Compiler.context?_mute, found, Option.map_none]
      rw [Compiler.compile_of_missing requested found,
        Compiler.compile_of_missing requested missing]
      exact ⟨rfl, fun _ _ isContext => nomatch isContext⟩
  | some context =>
      have isWalk := Compiler.visited_of_context found
      have foundMuted : muted.context? selected.taskName
          = some (context.mute (failingIds (compiler.visited selected))) := by
        rw [Compiler.context?_mute, found]
        rfl
      have sameOutcome := Compiler.fragments_mute_outcome context selected.values
      rw [← isWalk] at sameOutcome
      rw [Compiler.compile_of_context requested found,
        Compiler.compile_of_context requested foundMuted]
      refine ⟨?_, fun given rendered isContext returns => ?_⟩
      · rw [Report.outcome_bind, Report.outcome_bind, sameOutcome]
        rfl
      · obtain rfl := Option.some.inj isContext
        obtain ⟨isRendered, notices, others⟩ := Compiler.fragments_mute_notices returns isWalk
        rw [Report.notices_bind_of_ok _ returns,
          Report.notices_bind_of_ok _ (sameOutcome.trans returns), notices]
        have last : ∀ notice ∈ [Compiler.compiledNotice context.task.name rendered.length
            (compiler.outputMode context.builtin requested)], notice.isDrop = false := by
          intro notice member
          rw [List.mem_singleton.1 member]
          rfl
        obtain ⟨rest, drops⟩ := filter_isDrop others (fun _ => dropNotice?_isDrop) last
        exact ⟨isRendered, rest.symm, drops⟩

namespace Bundled

theorem sleepFragment_slotError :
    (sleepFragment "soon").slotError? = some ⟨"sleep_time", "soon", .int⟩ := by
  have unwritten : Json.read? Json.strict "soon" = none := by rfl
  have filled : fillTemplate (parameters "TASKDECK_SLEEP" [("sleep_time",
      .text sleepSlot.placeholder)]) [sleepSlot] [(.text "sleep_time", .text "soon")]
      = .error (.slot ⟨"sleep_time", "soon", .int⟩) := by
    rfl
  simp only [sleepFragment, Fragment.slotError?, filled]

/-- A time that is no number drops the fragment of the task that waits, with one warning. -/
theorem sleep_drops_its_fragment :
    let muted := compiler.mute [.text "__TASKDECK_SLEEP_OPTION__"]
    (muted.compile (sleepSelected "soon") none).outcome
        = (compiler.compile (sleepSelected "soon") none).outcome
      ∧ (compiler.compile (sleepSelected "soon") none).notices.filter Notice.isDrop
        = [⟨.warning, .compiler, "Dropping override of option '__TASKDECK_SLEEP_OPTION__': "
          ++ "Value 'soon' for '\x7bsleep_time\x7d' is not a valid int"⟩] := by
  have failing : compiler.failing (sleepSelected "soon")
      = [.text "__TASKDECK_SLEEP_OPTION__"] := by
    rw [Compiler.failing, visited_sleepSelected, failingIds,
      List.filter_cons_of_pos (by rw [sleepFragment_slotError]; rfl)]
    rfl
  have found : compiler.context? (sleepSelected "soon").taskName
      = some ⟨customTask "__TASKDECK_SLEEP__" "TASKDECK_SLEEP" "builtin.sleep.label"
          ["__TASKDECK_SLEEP_OPTION__"], options, true⟩ := rfl
  have returns := compiler_loaded.fragments_outcome found
  rw [visited_sleepSelected, renderFragments_cons_outcome,
    render_of_slotError sleepFragment_slotError] at returns
  obtain ⟨same, contained⟩ := compile_contains_failures compiler (sleepSelected "soon") none
  obtain ⟨_, _, drops⟩ := contained _ [] found returns
  rw [failing] at same
  refine ⟨same, ?_⟩
  rw [drops, visited_sleepSelected, List.filterMap_cons, Fragment.dropNotice?,
    sleepFragment_slotError]
  rfl

end Bundled

end PipelineOverride
