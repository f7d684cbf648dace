import TreePredicate.Text.Shown

/-!
# What is wrong with a pattern

Most faults are faults of syntax, with a place in the pattern. Five are not: numbers that are too
large to be taken, two flags that exclude each other, and groups inside one another for which there
is no room.
-/

set_option autoImplicit false

namespace TreePredicate.Pattern

/-- Why a pattern is refused. -/
inductive Fault where
  | malformed (message : String) (position : Option Nat)
  | repetitionTooLarge
  | codePointTooLarge
  | digitLimit (digits : Nat)
  | exclusiveFlags
  | tooDeep
deriving DecidableEq

namespace Fault

/-- The most decimal digits of a number that is read. -/
def digitsAllowed : Nat := 4300

/-- What is said of a number with too many digits. -/
def digitLimitMessage (digits : Nat) : String :=
  "Exceeds the limit (" ++ toString digitsAllowed ++
    " digits) for integer string conversion: value has " ++ toString digits ++
    " digits; use sys.set_int_max_str_digits() to increase the limit"

/-- What is said where there is no room for another call. -/
def tooDeepMessage : String := "maximum recursion depth exceeded"

/-- The place in a text as line and column, both from one; a place in a text of one line needs
neither. -/
def placeText (source : List Char) (position : Nat) : String :=
  let before := source.take position
  let line := before.count '\n' + 1
  let column := (before.reverse.takeWhile (· != '\n')).length + 1
  " at position " ++ toString position ++
    (if source.contains '\n' then
      " (line " ++ toString line ++ ", column " ++ toString column ++ ")"
    else "")

/-- What is said of a refused pattern. -/
def message (source : List Char) : Fault → String
  | .malformed message none => message
  | .malformed message (some position) => message ++ placeText source position
  | .repetitionTooLarge => "the repetition number is too large"
  | .codePointTooLarge => "Python int too large to convert to C int"
  | .digitLimit digits => digitLimitMessage digits
  | .exclusiveFlags => "ASCII and UNICODE flags are incompatible"
  | .tooDeep => tooDeepMessage

end Fault

end TreePredicate.Pattern
