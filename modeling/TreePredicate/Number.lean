import TreePredicate.Number.Double

/-!
# Numbers

A number is an integer of any size or a double. Integers and doubles compare by their exact value,
without rounding either; not-a-number compares with nothing.

* `Number.le`, `Number.lt`, `Number.same` : comparison by value;
* `Number.add?`, `Number.mean?` : sums and midpoints in mixed arithmetic, which fail when an integer
  is too large to become a double;
* `Number.min`, `Number.max` : the smaller and the larger of two, the first one when they are equal.
-/

set_option autoImplicit false

namespace TreePredicate

/-- An integer of any size, or a double. -/
inductive Number where
  | int (value : Int)
  | double (value : Double)
deriving DecidableEq

/-- What can go wrong when an integer meets doubles. -/
inductive Overflow where
  | conversion
  | quotient
deriving DecidableEq

namespace Overflow

/-- What is said of an overflow. -/
def message : Overflow → String
  | .conversion => "int too large to convert to float"
  | .quotient => "integer division result too large for a float"

end Overflow

namespace Number

/-- The place of a number on the number line; not-a-number has none. -/
def point? : Number → Option Point
  | .int n => some (.at (n * unitsPerOne))
  | .double d => d.point?

/-! ## Comparison -/

/-- At most. -/
def le (a b : Number) : Bool :=
  match a.point?, b.point? with
  | some x, some y => x.le y
  | _, _ => false

/-- Less than. -/
def lt (a b : Number) : Bool :=
  match a.point?, b.point? with
  | some x, some y => x.lt y
  | _, _ => false

/-- Equal in value, whatever the representation. -/
def same (a b : Number) : Bool :=
  match a.point?, b.point? with
  | some x, some y => x == y
  | _, _ => false

/-- The smaller of two numbers, the first one unless the second is less. -/
def min (a b : Number) : Number := if b.lt a then b else a

/-- The larger of two numbers, the first one unless the second is greater. -/
def max (a b : Number) : Number := if a.lt b then b else a

/-- An integer or a finite double. -/
def isFinite : Number → Bool
  | .int _ => true
  | .double d => d.isFinite

/-- The number on the other side of zero. -/
def neg : Number → Number
  | .int n => .int (-n)
  | .double d => .double d.neg

/-- The distance from zero. -/
def abs (a : Number) : Number :=
  match a with
  | .int n => .int n.natAbs
  | .double (.infinite _) => .double (.infinite false)
  | .double (.finite _ m) => .double (.finite false m)
  | .double .nan => a

/-! ## Mixed arithmetic -/

/-- A double that comes of integers, refused if they are past the largest double. -/
def bounded? (cause : Overflow) : Double → Except Overflow Double
  | .infinite _ => .error cause
  | d => .ok d

/-- A number as a double; fails for an integer past the largest double. -/
def toDouble? : Number → Except Overflow Double
  | .int n => bounded? .conversion (Double.ofInt n)
  | .double d => .ok d

/-- The sum: an integer if both terms are integers, a double otherwise. -/
def add? (a b : Number) : Except Overflow Number :=
  match a, b with
  | .int m, .int n => .ok (.int (m + n))
  | _, _ => do
    let x ← a.toDouble?
    let y ← b.toDouble?
    return .double (x.add y)

/-- Half of a number, always a double. -/
def half? : Number → Except Overflow Double
  | .int n => bounded? .quotient (Double.ofRatio (n < 0) n.natAbs 2)
  | .double d => .ok d.half

/-- The midpoint of two numbers, always a double. -/
def mean? (a b : Number) : Except Overflow Double := do
  let sum ← a.add? b
  sum.half?

end Number

end TreePredicate
