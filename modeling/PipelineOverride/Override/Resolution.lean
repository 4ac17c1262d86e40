import PipelineOverride.Project.Reference
import PipelineOverride.Project.Selection

/-!
# Resolution

A task's options are resolved depth first: each option contributes the override of its active case
and is followed by everything that the options of that case contribute. The walk is a list of
events in the order in which they happen; the fragments and the notices are views of that list.
What is wrong with one option is noted, and the walk goes on with the next.
-/

set_option autoImplicit false

namespace PipelineOverride

/-- A piece of an override, before templates are filled. -/
inductive Fragment where
  /-- The override of an active case. -/
  | static (id : Scalar) (payload : Document)
  /-- The template of an input option with its slots and what was entered for them. -/
  | template (id : Scalar) (body : Document) (slots : List Slot) (values : Table Document)

/-- Something that happens during resolution. -/
inductive Event where
  /-- A reference that cannot be an option id. -/
  | stray (reference : Document)
  | unknown (id : Scalar)
  /-- An id that is met again below itself. The trail ends with it. -/
  | cycle (id : Scalar) (trail : List Scalar)
  /-- A stored value of another kind than its option. -/
  | mismatch (id : Scalar) (given expected : OptionKind)
  /-- A value that no case answers to. -/
  | noCase (id : Scalar) (value : OptionValue)
  | active (id : Scalar) (caseName : String)
  | fragment (fragment : Fragment)

/-- The case that a switch takes by the spellings for its state. -/
def switchCase? (cases : List Case) (on : Bool) : Option Case :=
  cases.find? fun branch => (if on then onSpellings else offSpellings).contains branch.name

/-- The case that a value activates, if the value fits the option and names a case. -/
def OptionDefinition.activeCase? : OptionDefinition → OptionValue → Option Case
  | .select choice, .select name => choice.find? name
  | .switch choice, .switch on => switchCase? choice.cases on
  | _, _ => none

/-- The value with which an option is resolved: the stored one, else its default. -/
def effectiveValue (selections : SelectionStore) (id : Scalar) (definition : OptionDefinition) :
    OptionValue :=
  (selections.lookup id).getD definition.defaultValue

/-- What one option contributes by itself, and the options that follow it. -/
def visit (selections : SelectionStore) (id : Scalar) (definition : OptionDefinition) :
    List Event × List Document :=
  let value := effectiveValue selections id definition
  if value.kind ≠ definition.kind then ([.mismatch id value.kind definition.kind], [])
  else
    match definition, value with
    | .input form, .input values =>
      match form.override with
      | some body => ([.fragment (.template id body form.slots values)], [])
      | none => ([], [])
    | definition, value =>
      match definition.activeCase? value with
      | none => ([.noCase id value], [])
      | some branch =>
        let own :=
          match branch.override with
          | some payload => [.fragment (.static id payload)]
          | none => []
        (.active id branch.name :: own, branch.options)

/-- The events of resolving references below a path, in order. -/
def walk (registry : Registry) (selections : SelectionStore) (path : List Scalar)
    (references : List Document) : List Event :=
  match references with
  | [] => []
  | reference :: rest =>
    let first :=
      match reference.scalar? with
      | none => [.stray reference]
      | some id =>
        match found : registry.lookup id with
        | none => [.unknown id]
        | some definition =>
          if onPath : (path.any fun p => p.same id) = true then [.cycle id (path ++ [id])]
          else
            let step := visit selections id definition
            have := idsOffPath_length_lt found onPath
            step.1 ++ walk registry selections (path ++ [id]) step.2
    first ++ walk registry selections path rest
termination_by ((idsOffPath registry path).length, references.length)

namespace Event

def notice? : Event → Option Notice
  | .unknown id =>
    some ⟨.warning, .resolver, "Option '" ++ id.display ++ "' not found in registry, skipping"⟩
  | .cycle id trail =>
    some ⟨.warning, .resolver, "Option '" ++ id.display ++ "' references itself through "
      ++ " -> ".intercalate (trail.map Scalar.display) ++ ", skipping"⟩
  | .mismatch id given expected =>
    some ⟨.warning, .resolver, "Selection for option '" ++ id.display ++ "' is " ++ given.name
      ++ " but the option is " ++ expected.name ++ ", skipping"⟩
  | .noCase id value =>
    some ⟨.warning, .resolver, "Option '" ++ id.display ++ "' has no case for selection "
      ++ value.literal ++ ", skipping"⟩
  | .active id caseName =>
    some ⟨.debug, .resolver, "Option '" ++ id.display ++ "' resolved to case '" ++ caseName
      ++ "'"⟩
  | .stray _ => none
  | .fragment _ => none

def fragment? : Event → Option Fragment
  | .fragment piece => some piece
  | _ => none

/-- Whether an event ends the resolution: a reference that cannot be looked up, and a cycle whose
trail holds an id that is no text, because the notice of it joins the trail. -/
def halts : Event → Bool
  | .stray _ => true
  | .cycle _ trail => trail.any fun id => (Document.scalar id).text?.isNone
  | _ => false

/-- The notices and fragments of a walk, which ends where an event ends it. -/
def report : List Event → Report (List Fragment)
  | [] => .done []
  | event :: rest =>
    if event.halts then .fail .wrongKind
    else
      let tail := report rest
      ⟨event.notice?.toList ++ tail.notices,
        tail.outcome.map fun fragments => event.fragment?.toList ++ fragments⟩

end Event

/-- Resolves references, in order, into fragments. -/
def resolve (registry : Registry) (selections : SelectionStore) (references : List Document) :
    Report (List Fragment) :=
  Event.report (walk registry selections [] references)

end PipelineOverride
