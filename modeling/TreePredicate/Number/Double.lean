import TreePredicate.Number.Rounding

/-!
# Double precision numbers

A finite double is a sign and a magnitude, and the magnitude is a whole number of *units*: one unit
is the smallest positive double, `2 ^ -1074`. In units every finite double is an integer, so order,
truncation and sums are integer arithmetic, and only the last step of an operation rounds.

* `Magnitude` : a representable number of units (at most 53 significant binary digits, below
  `2 ^ 1024`);
* `Double` : not-a-number, an infinity, or a sign with a magnitude;
* `Double.ofUnits`, `Double.ofRatio`, `Double.ofInt` : the nearest double, infinite past the end;
* `Double.add`, `Double.half`, `Double.toSingle`, `Double.truncate` : the arithmetic in use;
* `Point` : a place on the number line with two ends, and `Double.point?`, which has none for
  not-a-number.
-/

set_option autoImplicit false

namespace TreePredicate

/-- The number of units in one. -/
def unitsPerOne : Nat := Nat.pow 2 1074

/-- The first power of two past the largest double, in units. -/
def unitsBound : Nat := Nat.pow 2 2098

/-- A magnitude that a double can hold, in units. -/
structure Magnitude where
  units : Nat
  rounded : Rounding.significant 53 units 1 = units
  small : units < unitsBound
deriving DecidableEq

/-- A double precision number; the two zeros differ in their sign. -/
inductive Double where
  | nan
  | infinite (negative : Bool)
  | finite (negative : Bool) (magnitude : Magnitude)
deriving DecidableEq

/-! ## Places on the number line -/

/-- A place on the number line, in units, with both ends. -/
inductive Point where
  | minusInfinity
  | at (units : Int)
  | plusInfinity
deriving DecidableEq

namespace Point

/-- `x` is left of `y`. -/
def lt : Point → Point → Bool
  | .minusInfinity, .minusInfinity => false
  | .minusInfinity, _ => true
  | .at _, .minusInfinity => false
  | .at x, .at y => x < y
  | .at _, .plusInfinity => true
  | .plusInfinity, _ => false

/-- `x` is left of `y` or at the same place. -/
def le (x y : Point) : Bool := !y.lt x

end Point

/-- A magnitude with its sign. -/
def signed (negative : Bool) (magnitude : Nat) : Int :=
  if negative then -(magnitude : Int) else magnitude

namespace Double

/-! ## Making doubles -/

/-- The nearest double to `± num / den` units, an exact half going to the even neighbour; infinite
when that is past the largest double. -/
def ofUnits (negative : Bool) (num den : Nat) : Double :=
  let units := Rounding.significant 53 num den
  if small : units < unitsBound then
    .finite negative ⟨units, Rounding.significant_significant (by decide) num den, small⟩
  else
    .infinite negative

/-- The nearest double to `± num / den`. -/
def ofRatio (negative : Bool) (num den : Nat) : Double :=
  ofUnits negative (num * unitsPerOne) den

/-- The nearest double to an integer, infinite when the integer is too large. -/
def ofInt (n : Int) : Double := ofRatio (n < 0) n.natAbs 1

/-- A zero of either sign. -/
def zero (negative : Bool) : Double := ofUnits negative 0 1

/-! ## Reading doubles -/

/-- The place of a double on the number line; not-a-number has none. -/
def point? : Double → Option Point
  | .nan => none
  | .infinite true => some .minusInfinity
  | .infinite false => some .plusInfinity
  | .finite negative m => some (.at (signed negative m.units))

/-- Neither infinite nor not-a-number. -/
def isFinite : Double → Bool
  | .finite .. => true
  | _ => false

/-- A finite double without a fractional part. -/
def isWhole : Double → Bool
  | .finite _ m => m.units % unitsPerOne == 0
  | _ => false

/-- The integer next to a finite double on the side of zero. -/
def truncate : Double → Int
  | .finite negative m => signed negative (m.units / unitsPerOne)
  | _ => 0

/-! ## Arithmetic -/

/-- The double on the other side of zero. -/
def neg : Double → Double
  | .nan => .nan
  | .infinite negative => .infinite !negative
  | .finite negative m => .finite (!negative) m

/-- The nearest double to a signed number of units; an exact zero is positive. -/
def ofSignedUnits (n : Int) : Double := ofUnits (n < 0) n.natAbs 1

/-- The nearest double to the sum. A sum that is exactly zero is negative only if both terms are. -/
def add : Double → Double → Double
  | .nan, _ => .nan
  | _, .nan => .nan
  | .infinite a, .infinite b => if a = b then .infinite a else .nan
  | .infinite a, .finite .. => .infinite a
  | .finite .., .infinite b => .infinite b
  | .finite a x, .finite b y =>
    if a && b && x.units == 0 && y.units == 0 then zero true
    else ofSignedUnits (signed a x.units + signed b y.units)

/-- The nearest double to one half of a double. -/
def half : Double → Double
  | .finite negative m => ofUnits negative m.units 2
  | d => d

/-- The nearest double to twice a double. -/
def twice : Double → Double
  | .finite negative m => ofUnits negative (2 * m.units) 1
  | d => d

/-- The units of the nearest single precision number: 24 significant binary digits, none below
`2 ^ -149`. -/
def singleUnits (units : Nat) : Nat :=
  Rounding.significant 24 units (Nat.pow 2 925) * Nat.pow 2 925

/-- The nearest single precision number. -/
def toSingle : Double → Double
  | .finite negative m => ofUnits negative (singleUnits m.units) 1
  | d => d

end Double

end TreePredicate
