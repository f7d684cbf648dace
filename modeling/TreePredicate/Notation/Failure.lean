import TreePredicate.Draft
import TreePredicate.Notation.PathText

/-!
# Why a text is no predicate

* `Failure` : the causes, each with its place in the text;
* `Failure.offset?` : a failure of the text has a place, while numbers past what can be read have
  none;
* `Failure.reason`, `Failure.message` : the wording, without and with place and text.
-/

set_option autoImplicit false

namespace TreePredicate.Notation

/-- What is wrong with a token. -/
inductive LexicalFault where
  | unterminated
  | malformedNumber
  | numberTooLarge
  | unexpected (c : Char)
  | badEscape (fault : Text.Quoted.Fault)
deriving DecidableEq

namespace LexicalFault

/-- What is said of a wrong token. -/
def reason : LexicalFault → String
  | .unterminated => "Unterminated string literal"
  | .malformedNumber => "Malformed numeric literal"
  | .numberTooLarge => "Numeric literal out of range"
  | .unexpected c => "Unexpected character " ++ Text.shown c.toString
  | .badEscape fault => "Invalid string literal (" ++ fault.message ++ ")"

end LexicalFault

/-- Why a text is no predicate. -/
inductive Failure where
  | lexical (fault : LexicalFault) (offset : Nat)
  | grammar (expected found : String) (offset : Nat)
  | ambiguous (conflict : Conflict) (offset : Nat)
  | pattern (source : String) (fault : Pattern.Fault) (offset : Nat)
  | tooManyDigits (digits : Nat)
deriving DecidableEq

namespace Failure

/-- The place of a failure; numbers past what can be read have none. -/
def offset? : Failure → Option Nat
  | .lexical _ offset | .grammar _ _ offset | .ambiguous _ offset => some offset
  | .pattern _ (.malformed ..) offset => some offset
  | .pattern .. | .tooManyDigits _ => none

/-- What is said of a refused pattern. -/
def patternDetail (source : String) (fault : Pattern.Fault) : String :=
  fault.message source.toList

/-- What is said of a failure, without its place. -/
def reason : Failure → String
  | .lexical fault _ => fault.reason
  | .grammar expected found _ => "Expected " ++ expected ++ ", found " ++ found
  | .ambiguous conflict _ =>
    "Ambiguous path " ++ Text.shown (pathText conflict.path) ++ ": " ++ conflict.clash.message
  | .pattern source fault@(.malformed ..) _ =>
    "Invalid regex " ++ Text.shown source ++ ": " ++ patternDetail source fault
  | .pattern source fault _ => patternDetail source fault
  | .tooManyDigits digits => Pattern.Fault.digitLimitMessage digits

/-- What is said of a failure in a text. -/
def message (text : String) (failure : Failure) : String :=
  match failure.offset? with
  | some offset =>
    failure.reason ++ " at offset " ++ toString offset ++ ": " ++ Text.shown text
  | none => failure.reason

end Failure

end TreePredicate.Notation
