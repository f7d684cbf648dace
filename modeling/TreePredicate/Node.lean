import TreePredicate.Table
import TreePredicate.Width

/-!
# Trees of named values

* `Node` : a compound of named nodes, a list of nodes, a number or a text;
* `Node.WellFormed` : no compound names a node twice;
* `Node.same` : equality of trees, which ignores the order of names and the widths of numbers;
* `Segment`, `Path` : the steps from a node to a node inside it;
* `Node.resolve?` : the node at the end of a path.
-/

set_option autoImplicit false

namespace TreePredicate

/-- A tree of named values. -/
inductive Node where
  | compound (entries : List (String × Node))
  | list (items : List Node)
  | number (quantity : Quantity)
  | text (value : String)

namespace Node

/-- A compound of entries written one after another. -/
def ofEntries (entries : List (String × Node)) : Node := .compound (Table.ofList entries)

mutual

/-- No compound in the tree names a node twice. -/
def WellFormed : Node → Prop
  | .compound entries => Table.Distinct entries ∧ EntriesWellFormed entries
  | .list items => ItemsWellFormed items
  | .number _ => True
  | .text _ => True

/-- The named nodes are well formed. -/
def EntriesWellFormed : List (String × Node) → Prop
  | [] => True
  | (_, node) :: rest => WellFormed node ∧ EntriesWellFormed rest

/-- The nodes of a list are well formed. -/
def ItemsWellFormed : List Node → Prop
  | [] => True
  | node :: rest => WellFormed node ∧ ItemsWellFormed rest

end

/-! ## Equality -/

mutual

/-- Equality of trees: names in any order, numbers by value. -/
def same : Node → Node → Bool
  | .compound entries, .compound others =>
    entries.length == others.length && sameEntries entries others
  | .list items, .list others => sameItems items others
  | .number a, .number b => a.same b
  | .text a, .text b => a == b
  | _, _ => false

/-- Every entry has its equal among the others. -/
def sameEntries : List (String × Node) → List (String × Node) → Bool
  | [], _ => true
  | (name, node) :: rest, others =>
    (match Table.find? name others with
      | some other => same node other
      | none => false) && sameEntries rest others

/-- Lists of equal length with equal nodes. -/
def sameItems : List Node → List Node → Bool
  | [], [] => true
  | node :: rest, other :: others => same node other && sameItems rest others
  | _, _ => false

end

end Node

/-! ## Paths -/

/-- A step into a node: by name into a compound, by position into a list. A negative position counts
from the end. -/
inductive Segment where
  | key (name : String)
  | index (position : Int)
deriving DecidableEq

/-- Steps one after another. -/
abbrev Path := List Segment

/-- The member of a list at a position; a negative one counts from the end. -/
def atPosition? {α : Type} (items : List α) (position : Int) : Option α :=
  if 0 ≤ position then items[position.toNat]?
  else if -position ≤ items.length then items[(items.length + position).toNat]?
  else none

namespace Node

/-- The node one step inside a node. -/
def step? : Node → Segment → Option Node
  | .compound entries, .key name => Table.find? name entries
  | .list items, .index position => atPosition? items position
  | _, _ => none

/-- The node at the end of a path. -/
def resolve? : Node → Path → Option Node
  | node, [] => some node
  | node, segment :: rest => (node.step? segment).bind fun inner => inner.resolve? rest

/-- The number of nodes of a list. -/
def length? : Node → Option Nat
  | .list items => some items.length
  | _ => none

end Node

end TreePredicate
