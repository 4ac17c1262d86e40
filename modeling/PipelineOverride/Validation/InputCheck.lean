import PipelineOverride.Pattern.Matcher
import PipelineOverride.Pattern.Parser
import PipelineOverride.Project.Definition

/-!
# Checks of entered values

A slot may have a pattern that entered values should match somewhere. Empty values and patterns that
cannot be read are never reported.
-/

set_option autoImplicit false

namespace PipelineOverride

/-- What is said of a value that does not match. -/
def Slot.mismatchMessage (slot : Slot) : Document :=
  slot.patternMessage.orIfVoid
    (.text ("Value for '" ++ slot.name ++ "' does not match the required format"))

/-- The pattern of a slot, none if it cannot be read. -/
def readPattern (verify : String) : Except Failure (Option Pattern) :=
  match Pattern.ofText verify with
  | .ok pattern => .ok (some pattern)
  | .error .malformed => .ok none
  | .error .tooMany => .error .tooLarge
  | .error .impossible => .error .badValue

/-- Checks an entered value against the pattern of its slot. The result is what to say, if there is
anything to say. -/
def Slot.check (slot : Slot) (value : Document) : Except Failure (Option Document) :=
  let verify := slot.verify.getD .null
  if verify.isVoid || value.isVoid then .ok none
  else
    match verify with
    | .text verify => do
      match ← readPattern verify with
      | none => return none
      | some pattern =>
        match value with
        | .text s => return if pattern.occursIn s then none else some slot.mismatchMessage
        | _ => throw .wrongKind
    | _ => .error .wrongKind

end PipelineOverride
