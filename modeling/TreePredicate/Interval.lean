import TreePredicate.Predicate

/-!
# Intervals

Every test of a number is membership in an interval, between exact numbers. A bound declared as a
single precision number admits the number as it is written and the single precision number next to
it, so such an interval may be a little wider than written.

* `Interval.ofTest`, `Interval.ofTest?` : the interval of a test, without and with the check that
  the declared width has room for its bounds;
* `Interval.isEmpty`, `Interval.holds` : no number is inside; a number is inside;
* `Interval.contains?` : the same for any number, refused for an integer past the largest double.
-/

set_option autoImplicit false

namespace TreePredicate

/-- The numbers between two ends, each included or not. -/
structure Interval where
  low : Number
  high : Number
  lowIncluded : Bool := true
  highIncluded : Bool := true
  width? : Option Width := none
deriving DecidableEq

namespace Interval

/-! ## Declared widths -/

/-- A bound is declared as a single precision number and has room in it. -/
def isSingle (value : Number) (width? : Option Width) : Bool :=
  width? == some .float && value.abs.le Width.float.limits.2

/-- The number that a node of the declared width holds for a bound. -/
def held (value : Number) (width? : Option Width) : Number :=
  if isSingle value width? then Width.float.convert value else value

/-- The number that a node of the declared width holds for a bound, if the width has room for it. -/
def held? (value : Number) (width? : Option Width) : Except Width.OutOfRange Number :=
  if isSingle value width? then Width.float.coerce value else .ok value

/-! ## Intervals of tests -/

/-- The lower end of a range. -/
def lowOf (lower? : Option Number) : Number := lower?.getD (.double (.infinite true))

/-- The upper end of a range. -/
def highOf (upper? : Option Number) : Number := upper?.getD (.double (.infinite false))

/-- The interval of a test, given what a node of the declared width holds for each bound. -/
def between (low heldLow high heldHigh : Number) (lowIncluded highIncluded : Bool)
    (width? : Option Width) : Interval :=
  ⟨low.min heldLow, high.max heldHigh, lowIncluded, highIncluded, width?⟩

/-- The interval of a test. -/
def ofTest (test : NumberTest) : Interval :=
  match test.asRange with
  | .range lower? upper? lowerIncluded upperIncluded width? =>
    let low := lowOf lower?
    let high := highOf upper?
    between low (held low width?) high (held high width?) lowerIncluded upperIncluded width?
  | .equals value width? | .compare _ value width? =>
    between value (held value width?) value (held value width?) true true width?

/-- The interval of a test, if the declared width has room for its bounds. -/
def ofTest? (test : NumberTest) : Except Width.OutOfRange Interval :=
  match test.asRange with
  | .range lower? upper? lowerIncluded upperIncluded width? => do
    let low := lowOf lower?
    let high := highOf upper?
    let heldLow ← held? low width?
    let heldHigh ← held? high width?
    return between low heldLow high heldHigh lowerIncluded upperIncluded width?
  | .equals value width? | .compare _ value width? => do
    let held ← held? value width?
    return between value held value held true true width?

/-! ## Members -/

/-- No number is inside. -/
def isEmpty (i : Interval) : Bool :=
  i.high.lt i.low || (i.low.same i.high && !(i.lowIncluded && i.highIncluded))

/-- A number is inside. -/
def holds (i : Interval) (value : Number) : Bool :=
  (if i.lowIncluded then i.low.le value else i.low.lt value) &&
    (if i.highIncluded then value.le i.high else value.lt i.high)

/-- A number is inside; an integer past the largest double is refused. -/
def contains? (i : Interval) (value : Number) : Except Overflow Bool := do
  let _ ← value.toDouble?
  return i.holds value

/-! ## Text -/

/-- A truth value as messages show it. -/
def flagText (b : Bool) : String := if b then "True" else "False"

/-- A declared width as messages show it. -/
def widthText : Option Width → String
  | none => "None"
  | some width => "<NumberKind." ++ width.name.toUpper ++ ": '" ++ width.name ++ "'>"

/-- An interval as messages show it. -/
def text (i : Interval) : String :=
  "Interval(low=" ++ i.low.text ++ ", high=" ++ i.high.text ++
    ", low_inclusive=" ++ flagText i.lowIncluded ++
    ", high_inclusive=" ++ flagText i.highIncluded ++
    ", kind=" ++ widthText i.width? ++ ")"

end Interval

end TreePredicate
