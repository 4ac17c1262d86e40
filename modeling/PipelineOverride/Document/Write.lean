import PipelineOverride.Failure

/-!
# Writing into documents

Replacing the value at a path of keys and indexes. An index below zero counts from the end of a
list.
-/

set_option autoImplicit false

namespace PipelineOverride

namespace Document

/-- The place in a list that an index stands for. -/
def listPlace (length : Nat) (index : Int) : Except Failure Nat :=
  let place := if index < 0 then index + length else index
  if 0 ≤ place && place < length then .ok place.toNat else .error .missingItem

/-- The place in a list that a step of a path stands for. -/
def stepPlace (length : Nat) : Scalar → Except Failure Nat
  | .int index => listPlace length index
  | .bool value => listPlace length (if value then 1 else 0)
  | _ => .error .wrongKind

/-- The document with another value at a path, which must have a step at least. The last step may
be a new key; all others must be there. -/
def put (document : Document) : List Scalar → Document → Except Failure Document
  | [], _ => .error .missingItem
  | [step], value =>
    match document with
    | .mapping fields => .ok (.mapping (Table.insert fields step value))
    | .list items => do
      let place ← stepPlace items.length step
      return .list (items.set place value)
    | _ => .error .wrongKind
  | step :: rest, value =>
    match document with
    | .mapping fields =>
      match Table.lookup fields step with
      | some inner => do
        return .mapping (Table.insert fields step (← inner.put rest value))
      | none => .error (.missingField step.display)
    | .list items => do
      let place ← stepPlace items.length step
      match items[place]? with
      | some inner => return .list (items.set place (← inner.put rest value))
      | none => throw .missingItem
    | _ => .error .wrongKind

end Document

end PipelineOverride
