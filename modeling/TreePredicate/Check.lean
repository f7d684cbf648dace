import TreePredicate.Notation.Grammar
import TreePredicate.Predicate.Evaluate
import TreePredicate.Value

/-!
# Checking plain values

* `Predicate.check` : a plain value satisfies a predicate;
* `check` : a plain value satisfies the predicate that a text stands for. The text is read first, so
  of two faults that of the text is reported.
-/

set_option autoImplicit false

namespace TreePredicate

/-- Why a check comes to no decision. -/
inductive CheckFault where
  | text (source : String) (cause : Notation.Failure)
  | value (cause : Value.Refusal)
  | evaluation (cause : EvaluationFault)
deriving DecidableEq

/-- What is said of a check that comes to no decision. -/
def CheckFault.message : CheckFault → String
  | .text source cause => cause.message source
  | .value cause => cause.message
  | .evaluation cause => cause.message

/-- A plain value satisfies a predicate. -/
def Predicate.check (p : Predicate) (value : Value) : Except CheckFault Bool := do
  let tree ← value.toNode.mapError .value
  (p.evaluate tree).mapError .evaluation

/-- A plain value satisfies the predicate that a text stands for. -/
def check (source : String) (value : Value) : Except CheckFault Bool := do
  let p ← (Notation.parse source).mapError (.text source)
  p.check value

end TreePredicate
