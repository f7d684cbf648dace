import TreePredicate.Pattern
import TreePredicate.Node

/-!
# Generated trees

A sketch is a tree that still knows which of its texts were drawn for a pattern.
-/

set_option autoImplicit false

namespace TreePredicate

/-- A tree in which texts drawn for a pattern are marked. -/
inductive Sketch where
  | compound (entries : List (String × Sketch))
  | list (items : List Sketch)
  | number (quantity : Quantity)
  | text (value : String)
  | drawn (pattern : Pattern) (value : String)

namespace Sketch

mutual

/-- The tree without the marks. -/
def toNode : Sketch → Node
  | .compound entries => .compound (entryNodes entries)
  | .list items => .list (itemNodes items)
  | .number quantity => .number quantity
  | .text value => .text value
  | .drawn _ value => .text value

/-- Named trees without the marks. -/
def entryNodes : List (String × Sketch) → List (String × Node)
  | [] => []
  | (name, sketch) :: rest => (name, toNode sketch) :: entryNodes rest

/-- Trees without the marks. -/
def itemNodes : List Sketch → List Node
  | [] => []
  | sketch :: rest => toNode sketch :: itemNodes rest

end

end Sketch

end TreePredicate
