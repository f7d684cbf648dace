import TreePredicate.Number.Decimal
import TreePredicate.Text.Shown

/-!
# Widths of numbers

A number in a tree has one of six widths: four of integers and two of binary fractions.

* `Width.limits` : the least and the greatest number of a width, both included;
* `Width.convert` : the number of that width nearest on the side of zero (integers) or nearest of
  all (fractions; a single precision number is rounded to double precision first);
* `Width.coerce` : `convert`, refused outside the limits;
* `Width.infer` : the width of a number that declares none;
* `Quantity` : a number that its width can hold.
-/

set_option autoImplicit false

namespace TreePredicate

/-- The width of a number in a tree. -/
inductive Width where
  | byte
  | short
  | int
  | long
  | float
  | double
deriving DecidableEq

namespace Width

/-- All widths, the narrowest first. -/
def all : List Width := [.byte, .short, .int, .long, .float, .double]

/-- The name of a width. -/
def name : Width → String
  | .byte => "byte"
  | .short => "short"
  | .int => "int"
  | .long => "long"
  | .float => "float"
  | .double => "double"

/-- The letter written after a numeric literal of a width. -/
def suffix : Width → Char
  | .byte => 'b'
  | .short => 's'
  | .int => 'i'
  | .long => 'l'
  | .float => 'f'
  | .double => 'd'

/-- The widths that hold integers only. -/
def isIntegral : Width → Bool
  | .float | .double => false
  | _ => true

/-- The width that a letter of either case stands for. -/
def ofLetter? (c : Char) : Option Width := all.find? fun width => width.suffix == c.toLower

/-- A suffix that stands for no width. -/
structure UnknownSuffix where
  suffix : String
deriving DecidableEq

/-- What is said of an unknown suffix. -/
def UnknownSuffix.message (e : UnknownSuffix) : String :=
  "Unknown numeric suffix: " ++ Text.shown e.suffix

/-- The width that a suffix stands for. -/
def ofSuffix (suffix : String) : Except UnknownSuffix Width :=
  match suffix.toList with
  | [c] => (ofLetter? c).elim (.error ⟨suffix⟩) .ok
  | _ => .error ⟨suffix⟩

/-! ## Limits -/

/-- How many binary digits an integral width has besides its sign. -/
def digits : Width → Nat
  | .byte => 7
  | .short => 15
  | .int => 31
  | _ => 63

/-- The greatest finite number of a fractional width, in units. -/
def greatestUnits : Width → Nat
  | .float => (Nat.pow 2 24 - 1) * Nat.pow 2 (104 + 1074)
  | _ => (Nat.pow 2 53 - 1) * Nat.pow 2 (971 + 1074)

/-- The least and the greatest number of a width. -/
def limits (width : Width) : Number × Number :=
  if width.isIntegral then
    let bound : Int := (Nat.pow 2 width.digits : Nat)
    (.int (-bound), .int (bound - 1))
  else
    (.double (Double.ofUnits true width.greatestUnits 1),
      .double (Double.ofUnits false width.greatestUnits 1))

/-- A number lies within the limits of a width. -/
def holds (width : Width) (value : Number) : Bool :=
  width.limits.1.le value && value.le width.limits.2

/-! ## Coercion -/

/-- A number refused by a width. -/
structure OutOfRange where
  value : Number
  width : Width
deriving DecidableEq

/-- What is said of a number refused by a width. -/
def OutOfRange.message (e : OutOfRange) : String :=
  e.value.text ++ " is out of range for " ++ e.width.name

/-- The nearest double to a number. -/
def asDouble : Number → Double
  | .int n => Double.ofInt n
  | .double d => d

/-- A number made to fit a width. -/
def convert (width : Width) (value : Number) : Number :=
  match width with
  | .float => .double (asDouble value).toSingle
  | .double => .double (asDouble value)
  | _ =>
    match value with
    | .int n => .int n
    | .double d => .int d.truncate

/-- A number made to fit a width that has room for it. -/
def coerce (width : Width) (value : Number) : Except OutOfRange Number :=
  if width.holds value then .ok (width.convert value) else .error ⟨value, width⟩

/-- The width of a number that declares none: doubles are double, integers are int if they fit and
long otherwise. -/
def infer : Number → Width
  | .double _ => .double
  | .int n => if Width.int.holds (.int n) then .int else .long

end Width

/-- A number in a tree: what its width makes of some number it has room for. -/
structure Quantity where
  width : Width
  value : Number
  made : ∃ given, width.coerce given = .ok value
deriving DecidableEq

namespace Quantity

/-- The quantity of a given width. -/
def make (width : Width) (given : Number) : Except Width.OutOfRange Quantity :=
  match made : width.coerce given with
  | .ok value => .ok ⟨width, value, given, made⟩
  | .error e => .error e

/-- The quantity of a number, of the declared width or of the inferred one. -/
def ofNumber (width? : Option Width) (given : Number) : Except Width.OutOfRange Quantity :=
  make (width?.getD (Width.infer given)) given

/-- Equal in value, whatever the widths. -/
def same (a b : Quantity) : Bool := a.value.same b.value

end Quantity

end TreePredicate
