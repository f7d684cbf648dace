import TreePredicate.Pattern.Tree
import TreePredicate.Text.Blank
import TreePredicate.Text.Digit
import TreePredicate.Text.LetterCase
import TreePredicate.Text.Word

/-!
# Characters of a pattern and sets of characters

Two characters are the same without regard to case if they have the same lower-case form, or
lower-case forms that share an upper-case form (`partnerClasses`).

* `lower ascii`, `isCased ascii` : the lower-case form and whether a character has another case;
  with `ascii`, of the Latin letters without marks only;
* `sameCode` : equality of code points, with or without regard to case;
* `categoryHolds` : the classes of characters;
* `setHolds` : membership in a set.

A set compares the lower-case form of a character with the lower-case forms of its members. Past the
first `0x10000` code points the members are taken as they are written, and a range also holds a
character whose upper-case form it holds.
-/

set_option autoImplicit false

namespace TreePredicate.Pattern

/-- Lower-case characters that share an upper-case form. -/
def partnerClasses : List (List Nat) := [
  [0x69, 0x131], [0x73, 0x17f], [0xb5, 0x3bc], [0x345, 0x3b9, 0x1fbe], [0x390, 0x1fd3],
  [0x3b0, 0x1fe3], [0x3b2, 0x3d0], [0x3b5, 0x3f5], [0x3b8, 0x3d1], [0x3ba, 0x3f0], [0x3c0, 0x3d6],
  [0x3c1, 0x3f1], [0x3c2, 0x3c3], [0x3c6, 0x3d5], [0x432, 0x1c80], [0x434, 0x1c81],
  [0x43e, 0x1c82], [0x441, 0x1c83], [0x442, 0x1c84, 0x1c85], [0x44a, 0x1c86], [0x463, 0x1c87],
  [0x1c88, 0xa64b], [0x1e61, 0x1e9b], [0xfb05, 0xfb06]]

/-- A lower-case character and those that share its upper-case form. -/
def partners (code : Nat) : List Nat :=
  (partnerClasses.find? fun partners => partners.contains code).getD [code]

/-- The lower-case form of a code point; with `ascii`, of the Latin letters only. -/
def lower (ascii : Bool) (code : Nat) : Nat :=
  if ascii then if 0x41 ≤ code ∧ code ≤ 0x5a then code + 0x20 else code
  else Text.lowerCode code

/-- A code point has another case. -/
def isCased (ascii : Bool) (code : Nat) : Bool :=
  if ascii then (0x41 ≤ code && code ≤ 0x5a) || (0x61 ≤ code && code ≤ 0x7a)
  else Text.lowerCode code != code || Text.upperCode code != code

/-- The lower-case forms that match a lower-case form. -/
def matchingForms (ascii : Bool) (code : Nat) : List Nat :=
  if ascii then [code] else partners code

/-- A code point of a text matches one of a pattern. -/
def sameCode (flags : Flags) (wanted code : Nat) : Bool :=
  if flags.ignoreCase && isCased flags.ascii wanted then
    (matchingForms flags.ascii (lower flags.ascii wanted)).contains (lower flags.ascii code)
  else wanted == code

/-! ## Ranges -/

/-- A run of case forms has a code point in a range, both ends included. -/
def runMeets (run : Text.CaseRun) (first last : Nat) : Bool :=
  let least := if first ≤ run.first then run.first
    else run.first + (first - run.first + run.step - 1) / run.step * run.step
  least ≤ run.last && least ≤ last

/-- A range holds a code point that has another case. -/
def rangeIsCased (ascii : Bool) (first last : Nat) : Bool :=
  if ascii then (first ≤ 0x5a && 0x41 ≤ last) || (first ≤ 0x7a && 0x61 ≤ last)
  else (Text.lowerRuns ++ Text.upperRuns).any fun run => runMeets run first last

/-- The code points with a lower-case form. -/
def withLower (ascii : Bool) (form : Nat) : List Nat :=
  let itself := if lower ascii form = form then [form] else []
  if ascii then
    if 0x61 ≤ form ∧ form ≤ 0x7a then (form - 0x20) :: itself else itself
  else
    itself ++ Text.lowerRuns.filterMap fun run =>
      let code := ((form : Int) - run.shift).toNat
      if run.first ≤ code && code ≤ run.last && (code - run.first) % run.step == 0 then some code
      else none

/-! ## Classes -/

/-- A code point of a text is in a class; with `ascii`, of the first 128 characters only. -/
def categoryHolds (ascii : Bool) (category : Category) (code : Nat) : Bool :=
  (!ascii || code < 0x80) &&
    match category with
    | .digit => Text.isDigit (Char.ofNat code)
    | .space => Text.isBlank (Char.ofNat code) && !(ascii && 0x1c ≤ code && code ≤ 0x1f)
    | .word => Text.isWord (Char.ofNat code)

/-! ## Sets -/

namespace Member

/-- The first code point past the ones that sets compare by their lower-case forms. -/
def plainFrom : Nat := 0x10000

/-- A member of a set has another case. -/
def isCased (ascii : Bool) : Member → Bool
  | .code wanted => plainFrom ≤ lower ascii wanted || Pattern.isCased ascii wanted
  | .range first last => plainFrom ≤ last || rangeIsCased ascii first last
  | .category .. => false

/-- A member holds a code point as it is written. -/
def holds (ascii : Bool) (actual : Nat) : Member → Bool
  | .code wanted => wanted == actual
  | .range first last => first ≤ actual && actual ≤ last
  | .category kind negated => categoryHolds ascii kind actual != negated

/-- A member holds the code points with a lower-case form. -/
def holdsForm (ascii : Bool) (form : Nat) : Member → Bool
  | .code wanted =>
    if plainFrom ≤ lower ascii wanted then wanted == form
    else (matchingForms ascii (lower ascii wanted)).contains form
  | .range first last =>
    ((matchingForms ascii form).flatMap (withLower ascii)).any
        (fun c => first ≤ c && c ≤ last && c < plainFrom) ||
      (plainFrom ≤ last &&
        ((first ≤ form && form ≤ last) ||
          (first ≤ Text.upperCode form && Text.upperCode form ≤ last)))
  | .category kind negated => categoryHolds ascii kind form != negated

end Member

/-- A code point of a text is in a set. -/
def setHolds (flags : Flags) (negated : Bool) (members : List Member) (code : Nat) : Bool :=
  if flags.ignoreCase && members.any (Member.isCased flags.ascii) then
    members.any (Member.holdsForm flags.ascii (lower flags.ascii code)) != negated
  else members.any (Member.holds flags.ascii code) != negated

end TreePredicate.Pattern
