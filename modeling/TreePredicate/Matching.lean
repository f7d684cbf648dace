import TreePredicate.Assignment

/-!
# Largest matchings

A matching is a set of allowed cells of a grid, no two of them in one row or one column. A cheapest
assignment in which allowed cells cost nothing and the others are forbidden keeps as many allowed
cells as any matching has.
-/

set_option autoImplicit false

namespace TreePredicate.Matching

/-- The cost of a cell: nothing if it is allowed, and otherwise it is forbidden. -/
def cellCost (allowed : Bool) : Double := if allowed then Double.zero false else .infinite false

/-- A largest set of allowed cells in distinct rows and columns. -/
def largest? {rows columns : Nat} (allowed : Grid rows columns Bool) :
    Except Assignment.Fault (Assignment rows columns) :=
  Assignment.assign fun i j => cellCost (allowed i j)

/-- The size of a largest set of allowed cells in distinct rows and columns. -/
def size? {rows columns : Nat} (allowed : Grid rows columns Bool) : Except Assignment.Fault Nat :=
  (largest? allowed).map List.length

/-- The size of a largest set of allowed cells in distinct rows and columns. -/
def size {rows columns : Nat} (allowed : Grid rows columns Bool) : Nat :=
  (size? allowed).toOption.getD 0

end TreePredicate.Matching
