import PipelineOverride.Failure
import PipelineOverride.Project.Definition

/-!
# Merging overrides

Two mappings are merged key by key. Where both sides hold a mapping the merge goes down; anywhere
else the incoming value replaces the one that was there. Lists are replaced, never joined.
-/

set_option autoImplicit false

namespace PipelineOverride

mutual

/-- Merges the fields of `source`, in order, into a table. -/
def mergeFields (target : Table Document) : List (Scalar × Document) → Table Document
  | [] => target
  | (key, value) :: rest =>
    mergeFields (target.insert key (mergeValue (target.lookup key) value)) rest

/-- The value that results where `existing` is there and another value comes in. -/
def mergeValue (existing : Option Document) : Document → Document
  | .mapping source =>
    match existing with
    | some (.mapping target) => .mapping (mergeFields target source)
    | _ => .mapping source
  | .scalar value => .scalar value
  | .list items => .list items
  | .set members => .set members

end

namespace Document

/-- The key and value that a document of two elements stands for. -/
def pair (document : Document) : Except Failure (Scalar × Document) := do
  match ← document.elements with
  | [key, value] =>
    match key.scalar? with
    | some key => pure (key, value)
    | none => throw .wrongKind
  | _ => throw .badValue

/-- The table that a document can be turned into: its fields, or the pairs that its elements
are. -/
def toTable (document : Document) : Except Failure (Table Document) := do
  match document.fields? with
  | some fields => pure fields
  | none =>
    let pairs ← (← document.elements).mapM pair
    pure (Table.ofEntries pairs)

end Document

/-- Merges `source` into `target`. The target may also be given by pairs. -/
def deepMerge (target source : Document) : Except Failure Document := do
  let target ← target.toTable
  let source ← source.fields
  return .mapping (mergeFields target source)

/-- Merges fragments one after another into a table. -/
def mergeOnto (merged : Table Document) : List Document → Except Failure (Table Document)
  | [] => .ok merged
  | fragment :: rest => do
    let fields ← fragment.fields
    mergeOnto (mergeFields merged fields) rest

/-- Merges fragments from left to right, starting with `base`. -/
def mergeFragments (fragments : List Document) (base : Option Document) :
    Except Failure Document := do
  let start ← match base with
    | some document => if document.isVoid then pure [] else document.toTable
    | none => pure []
  return .mapping (← mergeOnto start fragments)

end PipelineOverride
