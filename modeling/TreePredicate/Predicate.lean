import TreePredicate.Node
import TreePredicate.Pattern

/-!
# Predicates on trees

* `NumberTest` : a number, a range of numbers, or a comparison with a number;
* `Quantifier` : how the elements of a list predicate meet the items of a list;
* `Predicate` : the constraints of the notation;
* `Predicate.WellFormed` : no group constrains a name or a position twice;
* `Predicate.same` : equality of predicates, which ignores the order of fields and compares numbers
  by value and patterns by source.
-/

set_option autoImplicit false

namespace TreePredicate

/-- A comparison with one number. -/
inductive Comparison where
  | atLeast
  | atMost
  | above
  | below
deriving DecidableEq

/-- A constraint on a number. A range without a bound has no end on that side. -/
inductive NumberTest where
  | equals (value : Number) (width? : Option Width)
  | range (lower? upper? : Option Number) (lowerIncluded upperIncluded : Bool)
      (width? : Option Width)
  | compare (comparison : Comparison) (value : Number) (width? : Option Width)
deriving DecidableEq

/-- How the elements of a list predicate meet the items of a list. -/
inductive Quantifier where
  | exact
  | any
  | subset
  | superset
  | startsWith
  | endsWith
  | containsSequence
deriving DecidableEq

/-- A constraint on a tree. The fields of a group constrain named nodes, those of an index group the
items of a list; a negated field holds if its path leads nowhere or to a node that does not satisfy
the predicate. -/
inductive Predicate where
  | group (fields : List (String × Predicate)) (negated : List (Path × Predicate))
  | indexGroup (fields : List (Int × Predicate))
  | number (test : NumberTest)
  | text (value : String)
  | pattern (pattern : Pattern)
  | list (quantifier : Quantifier) (elements : List Predicate)

namespace Comparison

/-- All comparisons. -/
def all : List Comparison := [.atLeast, .atMost, .above, .below]

/-- The sign of a comparison. -/
def symbol : Comparison → String
  | .atLeast => ">="
  | .atMost => "<="
  | .above => ">"
  | .below => "<"

end Comparison

namespace Quantifier

/-- All quantifiers. -/
def all : List Quantifier :=
  [.exact, .any, .subset, .superset, .startsWith, .endsWith, .containsSequence]

/-- The name of a quantifier. -/
def name : Quantifier → String
  | .exact => "exact"
  | .any => "any"
  | .subset => "subset"
  | .superset => "superset"
  | .startsWith => "starts_with"
  | .endsWith => "ends_with"
  | .containsSequence => "contains_sequence"

/-- The marker of a quantifier, which stands before the opening bracket. -/
def symbol : Quantifier → String
  | .exact => ""
  | .any => "~"
  | .subset => "<"
  | .superset => ">"
  | .startsWith => "<<"
  | .endsWith => ">>"
  | .containsSequence => "><"

/-- The quantifier with a marker. -/
def ofSymbol? (symbol : String) : Option Quantifier := all.find? fun q => q.symbol == symbol

/-- What is said of a marker that stands for no quantifier. -/
def unknownMessage (symbol : String) : String :=
  "Unknown list quantifier: " ++ Text.shown symbol

end Quantifier

namespace NumberTest

/-- A comparison as a range without an end on one side; other tests are left alone. -/
def asRange : NumberTest → NumberTest
  | .compare .atLeast value width? => .range (some value) none true true width?
  | .compare .above value width? => .range (some value) none false true width?
  | .compare .atMost value width? => .range none (some value) true true width?
  | .compare .below value width? => .range none (some value) true false width?
  | test => test

/-- Equal bounds, or no bound on either side. -/
def sameBound : Option Number → Option Number → Bool
  | none, none => true
  | some a, some b => a.same b
  | _, _ => false

/-- Equality of tests, numbers by value. -/
def same : NumberTest → NumberTest → Bool
  | .equals a v, .equals b w => a.same b && v == w
  | .range a b c d v, .range a' b' c' d' w =>
    sameBound a a' && sameBound b b' && c == c' && d == d' && v == w
  | .compare c a v, .compare d b w => c == d && a.same b && v == w
  | _, _ => false

end NumberTest

namespace Predicate

mutual

/-- No group in the predicate constrains a name or a position twice. -/
def WellFormed : Predicate → Prop
  | .group fields negated =>
    Table.Distinct fields ∧ FieldsWellFormed fields ∧ NegatedWellFormed negated
  | .indexGroup fields => Table.Distinct fields ∧ ItemsWellFormed fields
  | .list _ elements => ElementsWellFormed elements
  | _ => True

/-- The fields of a group are well formed. -/
def FieldsWellFormed : List (String × Predicate) → Prop
  | [] => True
  | (_, p) :: rest => WellFormed p ∧ FieldsWellFormed rest

/-- The negated fields of a group are well formed. -/
def NegatedWellFormed : List (Path × Predicate) → Prop
  | [] => True
  | (_, p) :: rest => WellFormed p ∧ NegatedWellFormed rest

/-- The fields of an index group are well formed. -/
def ItemsWellFormed : List (Int × Predicate) → Prop
  | [] => True
  | (_, p) :: rest => WellFormed p ∧ ItemsWellFormed rest

/-- The elements of a list predicate are well formed. -/
def ElementsWellFormed : List Predicate → Prop
  | [] => True
  | p :: rest => WellFormed p ∧ ElementsWellFormed rest

end

/-! ## Equality -/

mutual

/-- Equality of predicates: fields in any order, negated fields in order, numbers by value. -/
def same : Predicate → Predicate → Bool
  | .group fields negated, .group fields' negated' =>
    fields.length == fields'.length && sameFields fields fields' && sameNegated negated negated'
  | .indexGroup fields, .indexGroup fields' =>
    fields.length == fields'.length && sameItems fields fields'
  | .number test, .number test' => test.same test'
  | .text value, .text value' => value == value'
  | .pattern p, .pattern q => p.source == q.source
  | .list quantifier elements, .list quantifier' elements' =>
    quantifier == quantifier' && sameElements elements elements'
  | _, _ => false

/-- Every named field has its equal among the others. -/
def sameFields : List (String × Predicate) → List (String × Predicate) → Bool
  | [], _ => true
  | (name, p) :: rest, others =>
    (match Table.find? name others with
      | some q => same p q
      | none => false) && sameFields rest others

/-- Every numbered field has its equal among the others. -/
def sameItems : List (Int × Predicate) → List (Int × Predicate) → Bool
  | [], _ => true
  | (position, p) :: rest, others =>
    (match Table.find? position others with
      | some q => same p q
      | none => false) && sameItems rest others

/-- Negated fields of equal number, with equal paths and predicates. -/
def sameNegated : List (Path × Predicate) → List (Path × Predicate) → Bool
  | [], [] => true
  | (path, p) :: rest, (path', q) :: others =>
    path == path' && same p q && sameNegated rest others
  | _, _ => false

/-- Elements of equal number that are equal. -/
def sameElements : List Predicate → List Predicate → Bool
  | [], [] => true
  | p :: rest, q :: others => same p q && sameElements rest others
  | _, _ => false

end

end Predicate

end TreePredicate
