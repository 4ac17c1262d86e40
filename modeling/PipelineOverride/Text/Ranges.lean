/-!
# Sets of code points

A set of code points is written as ascending closed ranges. Membership stops at the first range
that begins above the point, so a test of a low code point touches only the start of a table.
-/

set_option autoImplicit false

namespace PipelineOverride.Text

/-- Ascending, disjoint, closed ranges of code points. -/
abbrev Ranges := List (Nat × Nat)

/-- Whether a code point lies in one of the ranges. -/
def Ranges.mem : Ranges → Nat → Bool
  | [], _ => false
  | (first, last) :: rest, point =>
    if point < first then false else if point ≤ last then true else Ranges.mem rest point

end PipelineOverride.Text
