/-!
# Sets of characters as ranges of code points

`inRanges ranges code` : `code` lies in one of `ranges`, which are in ascending order, so that the
search ends at the first range that starts too late.
-/

set_option autoImplicit false

namespace TreePredicate.Text

/-- Membership in ranges of code points given in ascending order, both ends included. -/
def inRanges : List (Nat × Nat) → Nat → Bool
  | [], _ => false
  | (first, last) :: rest, code =>
    if code < first then false else code ≤ last || inRanges rest code

end TreePredicate.Text
