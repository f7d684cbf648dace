import TreePredicate.Predicate.Holds

/-!
# Evaluating predicates step by step

`Predicate.evaluate` decides as `Predicate.holds` does, in the order in which the parts of a
predicate stand, and with every step that could fail spelled out: a bound that its declared width
has no room for, a number that is no double, a position past the end of a list, costs without an
assignment. None of these steps ever fails.
-/

set_option autoImplicit false

namespace TreePredicate

/-- A step of an evaluation that could fail. -/
inductive EvaluationFault where
  | bound (cause : Width.OutOfRange)
  | conversion (cause : Overflow)
  | position
  | matching (cause : Assignment.Fault)
deriving DecidableEq

namespace EvaluationFault

/-- What is said of a step that fails. -/
def message : EvaluationFault → String
  | .bound cause => cause.message
  | .conversion cause => cause.message
  | .position => "tuple index out of range"
  | .matching cause => cause.message

end EvaluationFault

/-- A decision, or the step that failed. -/
abbrev Evaluation := Except EvaluationFault Bool

namespace Evaluation

/-- The second decision, if the first one is positive. -/
def andThen (first : Evaluation) (second : Unit → Evaluation) : Evaluation :=
  match first with
  | .ok true => second ()
  | _ => first

/-- Decides whether some element passes, from the first one on. -/
def anyOf {α : Type} (test : α → Evaluation) : List α → Evaluation
  | [] => .ok false
  | x :: rest =>
    match test x with
    | .ok false => anyOf test rest
    | decided => decided

end Evaluation

namespace Quantifier

variable {α : Type}

/-- The items from a position on pass the tests, one each, in order. -/
def evaluateRun (items : List α) : List (α → Evaluation) → Nat → Evaluation
  | [], _ => .ok true
  | test :: tests, position =>
    match items[position]? with
    | some item => (test item).andThen fun _ => evaluateRun items tests (position + 1)
    | none => .error .position

/-- Which items, by row, pass which tests, by column. -/
def evaluateCells (tests : List (α → Evaluation)) (items : List α) :
    Except EvaluationFault (List (List Bool)) :=
  items.mapM fun item => tests.mapM fun test => test item

/-- The cells of some rows. -/
def gridOf (rows columns : Nat) (cells : List (List Bool)) : Grid rows columns Bool :=
  let table := (cells.map List.toArray).toArray
  fun i j => (table.getD i #[]).getD j false

/-- The size of a largest matching between items and tests. -/
def evaluateMatching (tests : List (α → Evaluation)) (items : List α) :
    Except EvaluationFault Nat := do
  let cells ← evaluateCells tests items
  (Matching.size? (gridOf items.length tests.length cells)).mapError .matching

/-- What a quantifier says of items, given a test for each element. -/
def evaluate (quantifier : Quantifier) (tests : List (α → Evaluation)) (items : List α) :
    Evaluation :=
  let size := items.length
  let count := tests.length
  match quantifier with
  | .exact => if size = count then evaluateRun items tests 0 else .ok false
  | .any =>
    if tests.isEmpty then .ok items.isEmpty
    else Evaluation.anyOf (fun item => Evaluation.anyOf (fun test => test item) tests) items
  | .subset =>
    if size ≤ count then (evaluateMatching tests items).map (· == size) else .ok false
  | .superset =>
    if count ≤ size then (evaluateMatching tests items).map (· == count) else .ok false
  | .startsWith => if count ≤ size then evaluateRun items tests 0 else .ok false
  | .endsWith => if count ≤ size then evaluateRun items tests (size - count) else .ok false
  | .containsSequence =>
    Evaluation.anyOf (evaluateRun items tests) (List.range (size + 1 - count))

end Quantifier

namespace Predicate

/-- A number passes a test. -/
def evaluateNumber (test : NumberTest) (value : Number) : Evaluation := do
  let interval ← (Interval.ofTest? test).mapError EvaluationFault.bound
  (interval.contains? value).mapError EvaluationFault.conversion

mutual

/-- Decides whether a tree satisfies a predicate. -/
def evaluate : Predicate → Node → Evaluation
  | .group fields negated, node =>
    match node with
    | .compound entries =>
      (evaluateFields fields entries).andThen fun _ => evaluateNegated negated node
    | _ => .ok false
  | .indexGroup fields, node =>
    match node with
    | .list items => evaluateItems fields items
    | _ => .ok false
  | .number test, node =>
    match node with
    | .number quantity => evaluateNumber test quantity.value
    | _ => .ok false
  | .text value, node =>
    match node with
    | .text actual => .ok (actual == value)
    | _ => .ok false
  | .pattern p, node =>
    match node with
    | .text actual => .ok (p.accepts actual)
    | _ => .ok false
  | .list quantifier elements, node =>
    match node with
    | .list items => quantifier.evaluate (evaluations elements) items
    | _ => .ok false

/-- Decides whether every named field finds its node and holds there. -/
def evaluateFields : List (String × Predicate) → List (String × Node) → Evaluation
  | [], _ => .ok true
  | (name, p) :: rest, entries =>
    match Table.find? name entries with
    | some node => (evaluate p node).andThen fun _ => evaluateFields rest entries
    | none => .ok false

/-- Decides whether every numbered field finds its item and holds there. -/
def evaluateItems : List (Int × Predicate) → List Node → Evaluation
  | [], _ => .ok true
  | (position, p) :: rest, items =>
    match atPosition? items position with
    | some node => (evaluate p node).andThen fun _ => evaluateItems rest items
    | none => .ok false

/-- Decides whether no negated field holds. -/
def evaluateNegated : List (Path × Predicate) → Node → Evaluation
  | [], _ => .ok true
  | (path, p) :: rest, node =>
    match node.resolve? path with
    | some target =>
      Evaluation.andThen ((evaluate p target).map (!·)) fun _ => evaluateNegated rest node
    | none => evaluateNegated rest node

/-- The evaluations that predicates stand for. -/
def evaluations : List Predicate → List (Node → Evaluation)
  | [] => []
  | p :: rest => evaluate p :: evaluations rest

end

end Predicate

end TreePredicate
