/-!
# Lists with items at given positions

A position counts from the start of a list or, if it is negative, from its end. A list that is to
have items at given positions is made as short as possible, and its other slots take the item next
to them.

* `Slots.slot` : the slot that a position addresses in a list of some size;
* `Slots.size` : the least size in which given positions address distinct slots;
* `Slots.arrange` : the items in their slots;
* `Slots.fill` : a slot without an item takes the nearest one before it, or else the first of all.
-/

set_option autoImplicit false

namespace TreePredicate.Slots

/-- The slot that a position addresses in a list of some size. -/
def slot (size : Nat) (position : Int) : Nat := (position % size).toNat

/-- Positions address distinct slots in a list of some size. -/
def fits (positions : List Int) (size : Nat) : Bool := decide (positions.map (slot size)).Nodup

/-- The size that the positions counted from the start need. -/
def ahead (positions : List Int) : Nat := (positions.map fun i => (i + 1).toNat).foldl max 0

/-- The size that the positions counted from the end need. -/
def behind (positions : List Int) : Nat := (positions.map fun i => (-i).toNat).foldl max 0

/-- The first size from one on, among so many, in which positions address distinct slots. -/
def firstFit? (positions : List Int) : (size count : Nat) → Option Nat
  | _, 0 => none
  | size, count + 1 =>
    if fits positions size then some size else firstFit? positions (size + 1) count

/-- The least size in which positions address distinct slots. Enough is a list in which those
counted from the start and those counted from the end do not meet. -/
def size (positions : List Int) : Nat :=
  let start := max (ahead positions) (behind positions)
  let enough := ahead positions + behind positions
  (firstFit? positions start (enough + 1 - start)).getD enough

/-- The items in their slots. -/
def arrange {α : Type} (size : Nat) (items : List (Int × α)) : List (Option α) :=
  (List.range size).map fun n =>
    (items.find? fun (position, _) => slot size position == n).map Prod.snd

/-- The items of slots; one without an item takes that of the slot before it. -/
def fillFrom {α : Type} : α → List (Option α) → List α
  | _, [] => []
  | before, none :: rest => before :: fillFrom before rest
  | _, some item :: rest => item :: fillFrom item rest

/-- The items of slots; one without an item takes the nearest one before it, or else the first. -/
def fill {α : Type} (slots : List (Option α)) : List α :=
  match slots.findSome? id with
  | none => []
  | some first => fillFrom first slots

end TreePredicate.Slots
