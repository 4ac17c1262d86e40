import PipelineOverride.Document.Moment

/-!
# Scalars

The atomic values of a document, which are also the only values that can be keys of a mapping. Two
keys are the same when they are equal as values: a truth value counts as the number one or zero,
and a floating-point number that denotes an integer counts as that integer.
-/

set_option autoImplicit false

namespace PipelineOverride

open Decimal (Binary64)

/-- An atomic value of a document. -/
inductive Scalar where
  | null
  | bool (value : Bool)
  | int (value : Int)
  | float (value : Binary64)
  | text (value : String)
  | moment (value : Moment)
  | bytes (value : List UInt8)
  deriving DecidableEq, Repr, Inhabited

namespace Scalar

/-- The value that stands for a scalar when keys are compared. -/
def identity : Scalar → Scalar
  | .bool value => .int (if value then 1 else 0)
  | .float value =>
    match value.toInt? with
    | some n => .int n
    | none => .float value
  | other => other

/-- Whether two scalars are one key. -/
def same (a b : Scalar) : Bool :=
  a.identity = b.identity

@[simp] theorem same_self (a : Scalar) : a.same a = true := by
  simp [same]

theorem same_symm {a b : Scalar} (h : a.same b = true) : b.same a = true := by
  simpa [same, eq_comm] using h

theorem same_trans {a b c : Scalar} (hab : a.same b = true) (hbc : b.same c = true) :
    a.same c = true := by
  simp only [same, decide_eq_true_eq] at *
  exact hab.trans hbc

@[simp] theorem same_text {s t : String} : (Scalar.text s).same (.text t) = true ↔ s = t := by
  simp [same, identity]

end Scalar

end PipelineOverride
