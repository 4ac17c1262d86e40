import PipelineOverride.Proofs.Resolution.Step

/-!
# What a resolution depends on

A resolution looks up the definition of every id that it meets, and the stored value of every option
at which it arrives. Two runs give the same fragments and the same notices if the second registry
and the second store agree with the first ones on what the first run looks up. That set depends on
the run: an id is in it only if it is listed, or if the active case of an option refers to it that
is in the set itself.
-/

set_option autoImplicit false

namespace PipelineOverride

/-- The ids that a walk looks up. Nothing is looked up after an event that ends the resolution. -/
inductive LooksUp (registry : Registry) (selections : SelectionStore) :
    List Scalar → List Document → Scalar → Prop where
  | here {path reference rest id} : reference.scalar? = some id →
      LooksUp registry selections path (reference :: rest) id
  | deeper {path reference rest site id} : arrive? registry path reference = some site →
      LooksUp registry selections (path ++ [site.id]) (site.next selections) id →
      LooksUp registry selections path (reference :: rest) id
  | later {path reference rest id} :
      (walk registry selections path [reference]).any Event.halts = false →
      LooksUp registry selections path rest id →
      LooksUp registry selections path (reference :: rest) id

/-- The ids that active cases lead to: those that are listed, and those in the active case of an
option that active cases lead to. -/
inductive Active (registry : Registry) (selections : SelectionStore) (references : List Document) :
    Scalar → Prop where
  | listed {reference id} : reference ∈ references → reference.scalar? = some id →
      Active registry selections references id
  | nested {site : Site} {reference id} : Active registry selections references site.id →
      registry.lookup site.id = some site.definition → reference ∈ site.next selections →
      reference.scalar? = some id → Active registry selections references id

/-- The ids that can be reached from references, through any case of the options on the way. -/
inductive Reachable (registry : Registry) (references : List Document) : Scalar → Prop where
  | listed {reference id} : reference ∈ references → reference.scalar? = some id →
      Reachable registry references id
  | nested {id definition reference nestedId} : Reachable registry references id →
      registry.lookup id = some definition → reference ∈ definition.references →
      reference.scalar? = some nestedId → Reachable registry references nestedId

/-- A second registry and store give the same definition for an id and, if it is defined, the same
stored value. -/
structure AgreeAt (registry : Registry) (selections : SelectionStore) (registry' : Registry)
    (selections' : SelectionStore) (id : Scalar) : Prop where
  definition : registry'.lookup id = registry.lookup id
  value : (registry.lookup id).isSome → selections'.lookup id = selections.lookup id

variable {registry registry' : Registry} {selections selections' : SelectionStore}
  {path : List Scalar} {references : List Document} {id : Scalar}

/-!
## Active and reachable ids
-/

theorem Active.trans {site : Site} (leads : Active registry selections references site.id)
    (defined : registry.lookup site.id = some site.definition)
    (onward : Active registry selections (site.next selections) id) :
    Active registry selections references id := by
  induction onward with
  | listed member isId => exact .nested leads defined member isId
  | nested _ found member isId ih => exact .nested ih found member isId

theorem Active.of_cons {reference : Document} (active : Active registry selections references id) :
    Active registry selections (reference :: references) id := by
  induction active with
  | listed member isId => exact .listed (.tail _ member) isId
  | nested _ found member isId ih => exact .nested ih found member isId

theorem LooksUp.active (looked : LooksUp registry selections path references id) :
    Active registry selections references id := by
  induction looked with
  | here isId => exact .listed (.head _) isId
  | deeper arrived _ ih =>
      obtain ⟨isId, defined, _⟩ := arrive?_eq_some_iff.1 arrived
      exact .trans (.listed (.head _) isId) defined ih
  | later _ _ ih => exact ih.of_cons

theorem Active.reachable (active : Active registry selections references id) :
    Reachable registry references id := by
  induction active with
  | listed member isId => exact .listed member isId
  | @nested site reference id _ found member isId ih =>
      exact .nested ih found (site.next_subset_references selections member) isId

/-!
## Agreement
-/

theorem Event.report_append (events others : List Event) :
    report (events ++ others) = (report events).andThen fun first =>
      (report others).andThen fun second => .done (first ++ second) := by
  induction events with
  | nil =>
      simp only [List.nil_append, report, Report.done, Report.andThen]
      cases rest : report others with
      | mk notices outcome => cases outcome <;> simp
  | cons event rest ih =>
      cases ends : event.halts with
      | true =>
          rw [List.cons_append, report_cons_of_halts ends, report_cons_of_halts ends]
          rfl
      | false =>
          rw [List.cons_append, report_cons ends, report_cons ends, ih]
          simp only [Report.andThen]
          cases tail : report rest with
          | mk notices outcome =>
              cases outcome with
              | error failure => simp [Except.map]
              | ok first =>
                  cases further : report others with
                  | mk more outcome => cases outcome <;> simp [Except.map, Report.done]

/-- What follows an event that ends a resolution does not matter to the report. -/
theorem Event.report_append_congr {events events' others others' : List Event}
    (first : report events' = report events)
    (second : events.any halts = false → report others' = report others) :
    report (events' ++ others') = report (events ++ others) := by
  rw [report_append, report_append, first]
  cases ends : events.any halts with
  | false => rw [second ends]
  | true =>
      have fails : (report events).outcome = .error .wrongKind := by
        rw [report_outcome, ends]
        rfl
      simp only [Report.andThen, fails]

theorem arrive?_eq_of_agree {reference : Document}
    (agree : ∀ id, reference.scalar? = some id → registry'.lookup id = registry.lookup id) :
    arrive? registry' path reference = arrive? registry path reference := by
  cases isId : reference.scalar? with
  | none => simp only [arrive?, isId, Option.bind_eq_bind, Option.bind_none]
  | some id =>
      simp only [arrive?, isId, agree id isId, Option.bind_eq_bind, Option.bind_some]

theorem refusal_eq_of_agree {reference : Document}
    (agree : ∀ id, reference.scalar? = some id → registry'.lookup id = registry.lookup id) :
    refusal registry' path reference = refusal registry path reference := by
  cases isId : reference.scalar? with
  | none => simp only [refusal, isId]
  | some id => simp only [refusal, isId, agree id isId]

theorem Site.value_eq_of_agree {site : Site}
    (agree : selections'.lookup site.id = selections.lookup site.id) :
    site.value selections' = site.value selections := by
  simp only [Site.value, effectiveValue, agree]

/-- A walk reports the same on another registry and store that agree on the ids it looks up. -/
theorem walk_report_eq_of_agree (path : List Scalar) (references : List Document)
    (agree : ∀ id, LooksUp registry selections path references id →
      AgreeAt registry selections registry' selections' id) :
    Event.report (walk registry' selections' path references)
      = Event.report (walk registry selections path references) := by
  induction path, references using walk_induction registry selections with
  | nil path => simp only [walk_nil]
  | cons path reference rest below beside =>
      have definition : ∀ id, reference.scalar? = some id →
          registry'.lookup id = registry.lookup id :=
        fun id isId => (agree id (.here isId)).definition
      have single := walk_cons registry selections path reference []
      rw [walk_nil, List.append_nil] at single
      rw [walk_cons, walk_cons, ← single, arrive?_eq_of_agree definition,
        refusal_eq_of_agree definition]
      refine Event.report_append_congr ?_ fun complete =>
        beside fun id looked => agree id (.later complete looked)
      rw [single]
      cases arrived : arrive? registry path reference with
      | none => rfl
      | some site =>
          obtain ⟨isId, found, _⟩ := arrive?_eq_some_iff.1 arrived
          have value : site.value selections' = site.value selections :=
            Site.value_eq_of_agree ((agree site.id (.here isId)).value (by rw [found]; rfl))
          have visits : visit selections' site.id site.definition
              = visit selections site.id site.definition := by
            simp only [visit, ← Site.value.eq_1, value]
          have next : site.next selections' = site.next selections := by
            simp only [Site.next, Site.activeCase?, value]
          simp only [visits, next]
          exact Event.report_append_congr rfl fun _ =>
            below site arrived fun id looked => agree id (.deeper arrived looked)

/-- Resolution depends on nothing but the definitions and stored values that it looks up. So it does
not depend on what is defined or stored for ids to which no active case leads. -/
theorem resolve_depends_on_lookups (registry : Registry) (selections : SelectionStore)
    (references : List Document) (registry' : Registry) (selections' : SelectionStore) :
    ((∀ id, LooksUp registry selections [] references id →
        AgreeAt registry selections registry' selections' id) →
      resolve registry' selections' references = resolve registry selections references)
    ∧ ((∀ id, Active registry selections references id →
        AgreeAt registry selections registry' selections' id) →
      resolve registry' selections' references = resolve registry selections references) := by
  have looked : (∀ id, LooksUp registry selections [] references id →
      AgreeAt registry selections registry' selections' id) →
      resolve registry' selections' references = resolve registry selections references :=
    walk_report_eq_of_agree [] references
  exact ⟨looked, fun active => looked fun id isLooked => active id isLooked.active⟩

/-!
## A fork
-/

/-- A case that leads to options and has an override of its own. -/
def caseTo (name : String) (ids : List String) : Case where
  name := name
  label := noText
  description := noText
  options := ids.map Document.text
  override := some (.mapping [(.text name, .bool true)])

/-- A select option without a declared default. -/
def selectAmong (cases : List Case) : OptionDefinition :=
  .select { cases := cases, defaultCase := none, label := noText, description := noText }

/-- An option that leads to `B` or to `C`. From `B` a cycle and a dangling reference go on. -/
def fork : Registry :=
  [(.text "A", selectAmong [caseTo "left" ["B"], caseTo "right" ["C"]]),
    (.text "B", selectAmong [caseTo "only" ["A", "D"]])]

theorem fork_active {id : Scalar} (active : Active fork [] [.text "A"] id) :
    id = .text "A" ∨ id = .text "B" ∨ id = .text "D" := by
  induction active with
  | listed member isId =>
      cases List.mem_singleton.1 member
      cases isId
      exact .inl rfl
  | @nested site reference id _ found member isId ih =>
      obtain ⟨_, definition⟩ := site
      rcases ih with rfl | rfl | rfl
      · cases found
        cases List.mem_singleton.1 member
        cases isId
        exact .inr (.inl rfl)
      · cases found
        have references : reference ∈ [Document.text "A", .text "D"] := member
        rcases List.mem_cons.1 references with rfl | last
        · cases isId
          exact .inl rfl
        · cases List.mem_singleton.1 last
          cases isId
          exact .inr (.inr rfl)
      · cases found

/-- While the left case is active, defining `C` and selecting something for it changes nothing. -/
theorem fork_ignores_inactive :
    resolve (fork ++ [(.text "C", selectAmong [caseTo "other" ["B"]])])
        [(.text "C", .select (.text "other"))] [.text "A"]
      = resolve fork [] [.text "A"] := by
  refine (resolve_depends_on_lookups fork [] [.text "A"] _ _).2 fun id active => ?_
  rcases fork_active active with rfl | rfl | rfl
  · exact ⟨rfl, fun _ => rfl⟩
  · exact ⟨rfl, fun _ => rfl⟩
  · exact ⟨rfl, fun _ => rfl⟩

end PipelineOverride
