import TreePredicate.Notation.Canonical

/-!
# Writing predicates step by step

`print` writes a predicate as `printed` does, in the order in which its parts stand, and with every
step that could fail spelled out: an index group that is no field of a group, and an integer with
more digits than are written at all.

* `printNumber`, `printPath`, `printTest` : numbers, paths and tests of numbers;
* `print` : predicates. The fields of an index group are written with their whole path.
-/

set_option autoImplicit false

namespace TreePredicate.Notation

/-- Why a predicate cannot be written. -/
inductive PrintFault where
  | strayIndexGroup
  | tooManyDigits
deriving DecidableEq

/-- What is said of a predicate that cannot be written. -/
def PrintFault.message : PrintFault → String
  | .strayIndexGroup => Notation.strayIndexGroup
  | .tooManyDigits =>
    "Exceeds the limit (" ++ toString Pattern.Fault.digitsAllowed ++
      " digits) for integer string conversion; use sys.set_int_max_str_digits() to increase the limit"

/-! ## Numbers and paths -/

/-- An integer has no more digits than are written. -/
def isWritten (n : Int) : Bool := Decimal.length n.natAbs ≤ Pattern.Fault.digitsAllowed

/-- Writes a number. -/
def printNumber : Number → Except PrintFault String
  | .int n => if isWritten n then .ok (Number.int n).text else .error .tooManyDigits
  | .double d => .ok (Number.double d).text

/-- Writes a bound; no bound is written as nothing. -/
def printBound : Option Number → Except PrintFault String
  | none => .ok ""
  | some value => printNumber value

/-- Writes a test of a number. -/
def printTest : NumberTest → Except PrintFault String
  | .equals value width? => do
    let number ← printNumber value
    return number ++ suffixText width?
  | .compare comparison value width? => do
    let number ← printNumber value
    return comparison.symbol ++ " " ++ (number ++ suffixText width?)
  | .range lower? upper? lowerIncluded upperIncluded width? => do
    let lower ← printBound lower?
    let upper ← printBound upper?
    return (if lowerIncluded then "[" else "(") ++ lower ++ "~" ++ upper ++
      (if upperIncluded then "]" else ")") ++ suffixText width?

/-- A step that can be written. -/
def isWrittenStep : Segment → Bool
  | .key _ => true
  | .index position => isWritten position

/-- Writes a path. -/
def printPath (path : Path) : Except PrintFault String :=
  if path.all isWrittenStep then .ok (pathText path) else .error .tooManyDigits

/-! ## Predicates -/

mutual

/-- Writes a predicate. -/
def print : Predicate → Except PrintFault String
  | .group fields negated => do
    let fields ← printFields fields
    let negated ← printNegated negated
    return "\x7b" ++ ", ".intercalate (fields ++ negated) ++ "\x7d"
  | .indexGroup _ => .error .strayIndexGroup
  | .number test => printTest test
  | .text value => .ok (Text.Quoted.encode value)
  | .pattern p => .ok ("~" ++ Text.Quoted.encode p.source)
  | .list quantifier elements => do
    let elements ← printElements elements
    return quantifier.symbol ++ "[" ++ ", ".intercalate elements ++ "]"

/-- Writes the fields of a group. -/
def printFields : List (String × Predicate) → Except PrintFault (List String)
  | [] => .ok []
  | (key, .indexGroup items) :: rest => do
    let first ← printItems [.key key] items
    let others ← printFields rest
    return first ++ others
  | (key, p) :: rest => do
    let path ← printPath [.key key]
    let value ← print p
    let others ← printFields rest
    return (path ++ ": " ++ value) :: others

/-- Writes the fields of an index group at the end of a path. -/
def printItems (path : Path) : List (Int × Predicate) → Except PrintFault (List String)
  | [] => .ok []
  | (position, .indexGroup items) :: rest => do
    let first ← printItems (path ++ [.index position]) items
    let others ← printItems path rest
    return first ++ others
  | (position, p) :: rest => do
    let path' ← printPath (path ++ [.index position])
    let value ← print p
    let others ← printItems path rest
    return (path' ++ ": " ++ value) :: others

/-- Writes negated fields. -/
def printNegated : List (Path × Predicate) → Except PrintFault (List String)
  | [] => .ok []
  | (path, p) :: rest => do
    let path ← printPath path
    let value ← print p
    let others ← printNegated rest
    return ("!" ++ (path ++ ": " ++ value)) :: others

/-- Writes the elements of a list predicate. -/
def printElements : List Predicate → Except PrintFault (List String)
  | [] => .ok []
  | p :: rest => do
    let first ← print p
    let others ← printElements rest
    return first :: others

end

end TreePredicate.Notation
