import TreePredicate.Cache
import TreePredicate.Check
import TreePredicate.Notation.Canonical

/-!
# Assertions about plain values

`Asserter` asserts that plain values satisfy the predicates that texts stand for, and keeps the
predicates in a cache from one assertion to the next. An assertion fails with a fault of the check
or with a mismatch, which shows the predicate in its canonical form and the value.
-/

set_option autoImplicit false

namespace TreePredicate

/-- Why an assertion fails. -/
inductive AssertionFault where
  | check (cause : CheckFault)
  | mismatch (p : Predicate) (tree : Node)

/-- What is said of an assertion that fails. -/
def AssertionFault.message : AssertionFault → String
  | .check cause => cause.message
  | .mismatch p tree =>
    "Value does not match predicate\n  predicate: " ++ Notation.printed p ++
      "\n  value:     " ++ Value.shown tree

/-- A plain value satisfies a predicate, or the assertion fails. -/
def Predicate.assert (p : Predicate) (value : Value) : Except AssertionFault Unit := do
  let tree ← value.toNode.mapError fun cause => .check (.value cause)
  let satisfied ← (p.evaluate tree).mapError fun cause => .check (.evaluation cause)
  if satisfied then return () else throw (.mismatch p tree)

/-- Assertions that share a cache. -/
structure Asserter where
  cache : Cache := .default

namespace Asserter

/-- A plain value satisfies the predicate that a text stands for, or the assertion fails; with the
asserter for the assertions to come. -/
def assert (asserter : Asserter) (source : String) (value : Value) :
    Except AssertionFault Unit × Asserter :=
  match asserter.cache.parse source with
  | (.ok p, cache) => (p.assert value, ⟨cache⟩)
  | (.error cause, cache) => (.error (.check (.text source cause)), ⟨cache⟩)

end Asserter

end TreePredicate
