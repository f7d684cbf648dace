import TreePredicate.Number

/-!
# Decimal text of numbers

* `Decimal` : a sign, a digit string and a power of ten, as a numeric literal gives them;
* `Decimal.toDouble` : the nearest double, exact for every length of digits and every exponent;
* `Double.shortest` : the fewest digits that read back as a magnitude, and of those the nearest;
* `Double.text`, `Number.text` : the written form. Positional from `0.0001` up to below `10 ^ 16`
  with at least one digit after the point, and otherwise one digit before the point and an exponent
  of at least two digits.

`Double.shortest` accepts a digit string only if `Decimal.toDouble` reads it back, and falls back on
the full expansion, so writing and reading agree without an argument about digit counts.
-/

set_option autoImplicit false

namespace TreePredicate

/-- The decimal number `± digits · 10 ^ exponent`. -/
structure Decimal where
  negative : Bool
  digits : Nat
  exponent : Int
deriving DecidableEq, Repr

namespace Decimal

/-- How many decimal digits a positive number has. -/
def length (n : Nat) : Nat := (Nat.toDigits 10 n).length

/-- The value of decimal digits, the most significant first. -/
def value (digits : List Nat) : Nat := digits.foldl (fun n d => 10 * n + d) 0

/-- The nearest double. A number of `10 ^ 310` or more is past the largest double and one below
`10 ^ -330` is nearer to zero than to any other double, so no exponent needs a huge power. -/
def toDouble (d : Decimal) : Double :=
  if d.digits = 0 then Double.zero d.negative
  else if 310 < length d.digits + d.exponent then .infinite d.negative
  else if length d.digits + d.exponent < -330 then Double.zero d.negative
  else
    Double.ofRatio d.negative (d.digits * Nat.pow 10 d.exponent.toNat)
      (Nat.pow 10 (-d.exponent).toNat)

end Decimal

/-! ## The shortest digits -/

namespace Magnitude

/-- The `p` with `10 ^ (p - 1) ≤ m < 10 ^ p`, for a magnitude other than zero. -/
def decimalPlace (m : Magnitude) : Int :=
  (Decimal.length (m.units * Nat.pow 10 400 / unitsPerOne) : Int) - 400

/-- `digits · 10 ^ exponent` reads back as the magnitude. -/
def isWritten (m : Magnitude) (digits : Nat) (exponent : Int) : Bool :=
  (Decimal.mk false digits exponent).toDouble == .finite false m

/-- The nearest of the two multiples of `10 ^ exponent` around a magnitude that read back as it; of
two equally near ones the even one. -/
def onGrid? (m : Magnitude) (exponent : Int) : Option Nat :=
  let num := m.units * Nat.pow 10 (-exponent).toNat
  let den := unitsPerOne * Nat.pow 10 exponent.toNat
  let below := num / den
  match m.isWritten below exponent, m.isWritten (below + 1) exponent with
  | true, true => some (Rounding.nearest num den)
  | true, false => some below
  | false, true => some (below + 1)
  | false, false => none

/-- The fewest digits that read back as a magnitude, with their power of ten. Seventeen digits are
always enough. -/
def shortest (m : Magnitude) : Nat × Int :=
  let found := (List.range 17).findSome? fun (n : Nat) =>
    let exponent := m.decimalPlace - (n + 1)
    (m.onGrid? exponent).map fun digits => (digits, exponent)
  found.getD (m.units * Nat.pow 5 1074, -1074)

end Magnitude

/-! ## Written forms -/

namespace Decimal

/-- Digits without the zeros at their end, and how many those were. -/
def trim (digits : List Char) : List Char × Nat :=
  let rest := digits.reverse.dropWhile (· == '0')
  (rest.reverse, digits.length - rest.length)

/-- An exponent with its sign and at least two digits. -/
def exponentText (exponent : Int) : List Char :=
  let digits := Nat.toDigits 10 exponent.natAbs
  (if exponent < 0 then '-' else '+') :: (List.replicate (2 - digits.length) '0' ++ digits)

/-- The written form of `0.digits · 10 ^ point`. -/
def layout (digits : List Char) (point : Int) : List Char :=
  if -4 < point ∧ point ≤ 16 then
    if point ≤ 0 then
      ['0', '.'] ++ List.replicate (-point).toNat '0' ++ digits
    else if point.toNat < digits.length then
      digits.take point.toNat ++ '.' :: digits.drop point.toNat
    else
      digits ++ List.replicate (point.toNat - digits.length) '0' ++ ['.', '0']
  else
    let fraction := digits.drop 1
    digits.take 1 ++ (if fraction.isEmpty then [] else '.' :: fraction) ++
      'e' :: exponentText (point - 1)

/-- The written form of `digits · 10 ^ exponent`. -/
def spread (digits : Nat) (exponent : Int) : List Char :=
  let (kept, dropped) := trim (Nat.toDigits 10 digits)
  layout kept (kept.length + exponent + dropped)

end Decimal

namespace Double

/-- The written form of a magnitude. -/
def magnitudeText (m : Magnitude) : List Char :=
  if m.units = 0 then ['0', '.', '0'] else Decimal.spread m.shortest.1 m.shortest.2

/-- The written form of a double. -/
def text : Double → List Char
  | .nan => ['n', 'a', 'n']
  | .infinite negative => (if negative then ['-'] else []) ++ ['i', 'n', 'f']
  | .finite negative m => (if negative then ['-'] else []) ++ magnitudeText m

end Double

namespace Number

/-- The written form of an integer. -/
def intText (n : Int) : List Char :=
  (if n < 0 then ['-'] else []) ++ Nat.toDigits 10 n.natAbs

/-- The written form of a number. -/
def text : Number → String
  | .int n => String.ofList (intText n)
  | .double d => String.ofList d.text

end Number

end TreePredicate
