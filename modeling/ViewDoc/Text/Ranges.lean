/-!
Membership in sorted ranges of code points, with and without a stride.
-/

set_option autoImplicit false

namespace ViewDoc.Text

/-- Membership in a sorted list of inclusive ranges; the search ends at the first range above `n`. -/
def inRanges : List (Nat × Nat) -> Nat -> Bool
  | [], _ => false
  | (first, last) :: rest, n =>
    if n < first then false else decide (n ≤ last) || inRanges rest n

/-- Membership in a sorted list of strided ranges `(first, last, stride)`. -/
def inStrides : List (Nat × Nat × Nat) -> Nat -> Bool
  | [], _ => false
  | (first, last, stride) :: rest, n =>
    if n < first then false
    else if n ≤ last then (n - first) % stride == 0
    else inStrides rest n

end ViewDoc.Text
