import TreePredicate.Text.Ranges

/-!
# Blank characters

White space in the sense of Unicode: the space separators, the line and paragraph separators, and
the control characters of the bidirectional classes for white space, among them the four information
separators from `0x1c` to `0x1f`.
-/

set_option autoImplicit false

namespace TreePredicate.Text

/-- The ranges of blank characters. -/
def blankRanges : List (Nat × Nat) := [
  (9, 13), (28, 32), (133, 133), (160, 160), (5760, 5760), (8192, 8202), (8232, 8233),
  (8239, 8239), (8287, 8287), (12288, 12288)]

/-- A blank character. -/
def isBlank (c : Char) : Bool := inRanges blankRanges c.toNat

end TreePredicate.Text
