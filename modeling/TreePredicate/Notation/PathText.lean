import TreePredicate.Node
import TreePredicate.Text.Digit
import TreePredicate.Text.Quoted
import TreePredicate.Text.Word

/-!
# Written keys and paths

* `isPlainKey` : a key that needs no quotes, which is a word that does not start with a digit, or
  digits only;
* `keyText`, `pathText` : the written form of a key and of a path. Keys are joined by points and
  positions stand in brackets. Digits before a point are quoted, since they would read as a number
  with what follows.
-/

set_option autoImplicit false

namespace TreePredicate.Notation

/-- A key of decimal digits only. -/
def isDigits (key : String) : Bool :=
  let chars := key.toList
  !chars.isEmpty && chars.all Text.isDigit

/-- A key that is written without quotes. -/
def isPlainKey (key : String) : Bool :=
  match key.toList with
  | [] => false
  | c :: rest =>
    (Text.isWord c && !Text.isDigit c && rest.all Text.isWord) || isDigits key

/-- The written form of a key. -/
def keyText (key : String) : String :=
  if isPlainKey key then key else Text.Quoted.encode key

/-- The written form of a key, given what follows it on its path. -/
def keyTextBefore (key : String) (following : Path) : String :=
  match following with
  | .key _ :: _ => if isDigits key then Text.Quoted.encode key else keyText key
  | _ => keyText key

/-- The written form of a position. -/
def positionText (position : Int) : String :=
  "[" ++ String.ofList (Number.intText position) ++ "]"

/-- The written form of what follows the first step of a path. -/
def restText : Path → String
  | [] => ""
  | .index position :: rest => positionText position ++ restText rest
  | .key key :: rest => "." ++ keyTextBefore key rest ++ restText rest

/-- The written form of a path. -/
def pathText : Path → String
  | .key key :: rest => keyTextBefore key rest ++ restText rest
  | path => restText path

end TreePredicate.Notation
