import TreePredicate.Interval

/-!
# Numbers chosen from an interval

A number inside an interval is looked for among a few candidates. An interval on one side of zero is
searched from its end next to zero: that end, some steps away from it, the midpoint and the other
end. An interval across zero has zero as its only candidate.

* `Interval.course?` : where a search starts and ends;
* `Interval.candidates?` : the candidates in order; one that is no finite number is left out;
* `Interval.quantity?` : the quantity that a candidate becomes, if its declared width has room for
  it;
* `Interval.choose?` : the first candidate whose quantity is inside.

All candidates are worked out before one is tried, so an overflow in any of them ends the search.
-/

set_option autoImplicit false

namespace TreePredicate.Interval

/-- Where a search starts and ends, and whether it goes away from zero downwards. -/
structure Course where
  start : Number
  stop : Number
  startIncluded : Bool
  stopIncluded : Bool
  descending : Bool
deriving DecidableEq

/-- Zero. -/
def zero : Number := .int 0

/-- Where a search starts and ends, unless the interval lies across zero. -/
def course? (i : Interval) : Option Course :=
  if zero.le i.low then some ⟨i.low, i.high, i.lowIncluded, i.highIncluded, false⟩
  else if i.high.le zero then some ⟨i.high, i.low, i.highIncluded, i.lowIncluded, true⟩
  else none

/-- The steps of a search, in order. -/
def steps : List Number :=
  [.double (Double.ofRatio false 1 2), .int 1, .int 2, .int 5, .int 10,
    .double (Double.ofRatio false 1 5), .double (Double.ofRatio false 1 10),
    .double (Double.ofRatio false 1 100)]

/-- The candidates that lie a step away from the start. -/
def stepped? (course : Course) : Except Overflow (List Number) :=
  steps.mapM fun step => course.start.add? (if course.descending then step.neg else step)

/-- The candidates in order. -/
def candidates? (i : Interval) : Except Overflow (List Number) :=
  match i.course? with
  | none => .ok [zero]
  | some course => do
    let stepped ← stepped? course
    let middle ← i.low.mean? i.high
    let found := (if course.startIncluded then [course.start] else []) ++ stepped ++
      [.double middle] ++ (if course.stopIncluded then [course.stop] else [])
    return found.filter Number.isFinite

/-- The integer that a number is, if it is whole. -/
def whole? : Number → Option Int
  | .int n => some n
  | .double d => if d.isWhole then some d.truncate else none

/-- The quantity that a candidate becomes. Where no width is declared, a whole number that a long
has room for becomes an integer, and any other number a double. -/
def quantity? (width? : Option Width) (candidate : Number) : Except Overflow (Option Quantity) :=
  match width? with
  | some width => .ok (Quantity.make width candidate).toOption
  | none =>
    match (whole? candidate).filter fun n => Width.long.holds (.int n) with
    | some n => .ok (Quantity.ofNumber none (.int n)).toOption
    | none => do
      let d ← candidate.toDouble?
      return (Quantity.ofNumber none (.double d)).toOption

/-- The first quantity inside an interval that one of some candidates becomes. -/
def firstInside? (i : Interval) : List Number → Except Overflow (Option Quantity)
  | [] => .ok none
  | candidate :: rest => do
    match ← quantity? i.width? candidate with
    | some quantity =>
      if i.holds quantity.value then return some quantity else firstInside? i rest
    | none => firstInside? i rest

/-- A quantity inside an interval, if one of the candidates becomes one. -/
def choose? (i : Interval) : Except Overflow (Option Quantity) := do
  let candidates ← i.candidates?
  firstInside? i candidates

end TreePredicate.Interval
