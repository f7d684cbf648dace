import TreePredicate.Node

/-!
# Paths

* `Path.StartsWithKey` : paths of the kind that fields of a group have;
* `resolve?_cons` : following a path step by step.
-/

set_option autoImplicit false

namespace TreePredicate

/-- The first step of a path is a key. -/
def Path.StartsWithKey (path : Path) : Prop := ∃ key rest, path = .key key :: rest

theorem Node.resolve?_cons (node : Node) (step : Segment) (rest : Path) (x : Node) :
    node.resolve? (step :: rest) = some x ↔
      ∃ inner, node.step? step = some inner ∧ inner.resolve? rest = some x := by
  rw [Node.resolve?]
  exact Option.bind_eq_some_iff

end TreePredicate
