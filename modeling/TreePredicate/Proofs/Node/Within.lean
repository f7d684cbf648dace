import TreePredicate.Proofs.Node.Same

/-!
# Trees inside larger trees

A tree is within another if the other one has all of its names at every depth, and more perhaps. The
lists of both are of equal length, and their numbers and texts are equal.

* `Node.within` : a tree is within another one;
* `Within.compound`, `Within.list` : what that says of the nodes inside;
* `Within.exists_step?` : a step that leads somewhere in the one leads to a larger tree in the other.
-/

set_option autoImplicit false

namespace TreePredicate.Node

mutual

/-- Another tree has the names of a tree at every depth, lists of equal length and equal numbers and
texts. -/
def within : Node → Node → Bool
  | .compound entries, .compound others => entriesWithin entries others
  | .list items, .list others => itemsWithin items others
  | .number a, .number b => a.same b
  | .text a, .text b => a == b
  | _, _ => false

/-- Every entry is within the one of its name among the others. -/
def entriesWithin : List (String × Node) → List (String × Node) → Bool
  | [], _ => true
  | (name, node) :: rest, others =>
    (match Table.find? name others with
      | some other => within node other
      | none => false) && entriesWithin rest others

/-- Lists of equal length, each node within its counterpart. -/
def itemsWithin : List Node → List Node → Bool
  | [], [] => true
  | node :: rest, other :: others => within node other && itemsWithin rest others
  | _, _ => false

end

theorem entriesWithin_iff (entries others : List (String × Node)) :
    entriesWithin entries others = true ↔
      ∀ e ∈ entries, ∃ other, Table.find? e.1 others = some other ∧ e.2.within other = true := by
  induction entries with
  | nil => simp [entriesWithin]
  | cons e rest ih =>
    obtain ⟨name, node⟩ := e
    rw [entriesWithin, Bool.and_eq_true, ih, List.forall_mem_cons]
    refine and_congr ?_ Iff.rfl
    cases h : Table.find? name others with
    | none => simp
    | some other => simp

theorem itemsWithin_iff (items others : List Node) :
    itemsWithin items others = true ↔ List.Forall₂ (fun x y => x.within y = true) items others := by
  induction items generalizing others with
  | nil => cases others <;> simp [itemsWithin]
  | cons node rest ih =>
    cases others with
    | nil => simp [itemsWithin]
    | cons other others => rw [itemsWithin, Bool.and_eq_true, ih, List.forall₂_cons]

/-- A tree is within another one. -/
def Within (node other : Node) : Prop := node.within other = true

theorem Within.compound {entries others : List (String × Node)}
    (h : Within (.compound entries) (.compound others)) {name : String} {inner : Node}
    (hinner : Table.find? name entries = some inner) :
    ∃ outer, Table.find? name others = some outer ∧ inner.Within outer := by
  rw [Within, within, entriesWithin_iff] at h
  exact h _ (Table.mem_of_find? hinner)

theorem Within.list {items others : List Node} (h : Within (.list items) (.list others)) :
    List.Forall₂ Within items others := by
  rw [Within, within, itemsWithin_iff] at h
  exact h

/-- A step that leads somewhere leads to a larger tree in a larger tree. -/
theorem Within.exists_step? {node other inner : Node} (h : node.Within other) {step : Segment}
    (hinner : node.step? step = some inner) :
    ∃ outer, other.step? step = some outer ∧ inner.Within outer := by
  cases node with
  | compound entries =>
    cases other with
    | compound others =>
      cases step with
      | key name => exact h.compound hinner
      | index position => cases hinner
    | _ => cases h
  | list items =>
    cases other with
    | list others =>
      cases step with
      | key name => cases hinner
      | index position =>
        have hrel := rel_atPosition? h.list position
        rw [show atPosition? items position = some inner from hinner] at hrel
        cases houter : atPosition? others position with
        | none =>
          rw [houter] at hrel
          cases hrel
        | some outer =>
          rw [houter] at hrel
          cases hrel with
          | some hwithin => exact ⟨outer, houter, hwithin⟩
    | _ => cases h
  | number quantity => cases hinner
  | text value => cases hinner

end TreePredicate.Node
