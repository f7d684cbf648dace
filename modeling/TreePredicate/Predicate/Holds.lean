import TreePredicate.Interval
import TreePredicate.Matching

/-!
# What predicates mean

* `Quantifier.holds` : what a quantifier says of the items of a list, given a test for each element;
* `Predicate.holds` : a tree satisfies a predicate. It is total: a tree of the wrong shape, a
  missing name or a position past the end make a predicate false.
-/

set_option autoImplicit false

namespace TreePredicate

namespace Quantifier

variable {α : Type}

/-- The first items pass the tests, one each, in order. -/
def run : List (α → Bool) → List α → Bool
  | [], _ => true
  | _ :: _, [] => false
  | test :: tests, item :: items => test item && run tests items

/-- Which items, by row, pass which tests, by column. -/
def allowed (tests : List (α → Bool)) (items : List α) : Grid items.length tests.length Bool :=
  fun i j => tests[j] items[i]

/-- What a quantifier says of items, given a test for each element. -/
def holds (quantifier : Quantifier) (tests : List (α → Bool)) (items : List α) : Bool :=
  match quantifier with
  | .exact => items.length == tests.length && run tests items
  | .any => if tests.isEmpty then items.isEmpty else items.any fun x => tests.any fun t => t x
  | .subset =>
    items.length ≤ tests.length && Matching.size (allowed tests items) == items.length
  | .superset =>
    tests.length ≤ items.length && Matching.size (allowed tests items) == tests.length
  | .startsWith => tests.length ≤ items.length && run tests items
  | .endsWith =>
    tests.length ≤ items.length && run tests (items.drop (items.length - tests.length))
  | .containsSequence =>
    (List.range (items.length + 1 - tests.length)).any fun start => run tests (items.drop start)

end Quantifier

namespace Predicate

mutual

/-- A tree satisfies a predicate. -/
def holds : Predicate → Node → Bool
  | .group fields negated, node =>
    match node with
    | .compound entries => fieldsHold fields entries && noneHolds negated node
    | _ => false
  | .indexGroup fields, node =>
    match node with
    | .list items => itemsHold fields items
    | _ => false
  | .number test, node =>
    match node with
    | .number quantity => (Interval.ofTest test).holds quantity.value
    | _ => false
  | .text value, node =>
    match node with
    | .text actual => actual == value
    | _ => false
  | .pattern p, node =>
    match node with
    | .text actual => p.accepts actual
    | _ => false
  | .list quantifier elements, node =>
    match node with
    | .list items => quantifier.holds (tests elements) items
    | _ => false

/-- Every named field finds its node and holds there. -/
def fieldsHold : List (String × Predicate) → List (String × Node) → Bool
  | [], _ => true
  | (name, p) :: rest, entries =>
    (match Table.find? name entries with
      | some node => holds p node
      | none => false) && fieldsHold rest entries

/-- Every numbered field finds its item and holds there. -/
def itemsHold : List (Int × Predicate) → List Node → Bool
  | [], _ => true
  | (position, p) :: rest, items =>
    (match atPosition? items position with
      | some node => holds p node
      | none => false) && itemsHold rest items

/-- No negated field holds: its path leads nowhere, or to a node that does not satisfy it. -/
def noneHolds : List (Path × Predicate) → Node → Bool
  | [], _ => true
  | (path, p) :: rest, node =>
    (match node.resolve? path with
      | some target => !holds p target
      | none => true) && noneHolds rest node

/-- The tests that predicates stand for. -/
def tests : List Predicate → List (Node → Bool)
  | [] => []
  | p :: rest => holds p :: tests rest

end

end Predicate

end TreePredicate
