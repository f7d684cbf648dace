import TreePredicate.Pattern.Sampler

/-!
# Room for calls inside one another

To read a pattern and to draw a text for it takes a call inside another one for every group inside a
group. How many calls can be inside one another is limited, but not by the pattern alone: it depends
on how deep the caller is already and on what was read before. So what there is room for is left
open, and what is said of patterns read at places of a text holds for every `Room`.

* `Room` : which patterns can be read at which places, and for which ones texts can be drawn;
* `Room.ample` : room for all of them, which is meant where nothing else is said;
* `Room.ofNesting` : room for patterns whose parentheses are not nested too deep.
-/

set_option autoImplicit false

namespace TreePredicate

/-- What there is room for: to read a pattern at an offset of a text, and to draw a text for a
pattern. -/
class Room where
  reads (source : String) (offset : Nat) : Bool
  draws (source : String) (dice : Pattern.Dice) : Bool

namespace Room

/-- Room for all patterns. -/
instance (priority := low) ample : Room where
  reads _ _ := true
  draws _ _ := true

/-- The most parentheses that are open at once, with `depth` of them open at first. An escaped one
does not count. -/
def nestingFrom (depth : Nat) : List Char → Nat
  | [] => depth
  | '\\' :: _ :: rest => nestingFrom depth rest
  | '(' :: rest => nestingFrom (depth + 1) rest
  | ')' :: rest => max depth (nestingFrom (depth - 1) rest)
  | _ :: rest => nestingFrom depth rest

theorem le_nestingFrom (depth : Nat) (chars : List Char) : depth ≤ nestingFrom depth chars := by
  fun_induction nestingFrom depth chars with
  | case1 => exact Nat.le_refl _
  | case2 _ _ _ ih => exact ih
  | case3 _ _ ih => exact Nat.le_of_succ_le ih
  | case4 => exact Nat.le_max_left _ _
  | case5 _ _ _ _ _ _ ih => exact ih

/-- The most parentheses of a pattern that are open at once. -/
def nesting (source : String) : Nat := nestingFrom 0 source.toList

/-- Room for patterns with at most so many open parentheses. -/
@[reducible] def ofNesting (reading drawing : Nat) : Room where
  reads source _ := nesting source ≤ reading
  draws source _ := nesting source ≤ drawing

end Room

end TreePredicate
