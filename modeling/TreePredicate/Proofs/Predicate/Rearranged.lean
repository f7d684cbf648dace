import Mathlib.Data.List.Forall2
import TreePredicate.Predicate

/-!
# The same predicate in another order

* `Predicate.Rearranged` : two predicates differ only in the order of the fields, and of the negated
  fields, of groups anywhere inside them;
* `Rearranged.ofEntries`, `Rearranged.ofFields`, `Rearranged.ofItems` : all fields rearranged at once.
-/

set_option autoImplicit false

namespace TreePredicate.Predicate

/-- A predicate becomes another by putting fields, or negated fields, of groups inside it into another
order. -/
inductive Rearranged : Predicate → Predicate → Prop
  | refl (p : Predicate) : Rearranged p p
  | trans {p q r : Predicate} : Rearranged p q → Rearranged q r → Rearranged p r
  | fields {fields fields' : List (String × Predicate)} (negated : List (Path × Predicate)) :
      fields.Perm fields' → Rearranged (.group fields negated) (.group fields' negated)
  | negated (fields : List (String × Predicate)) {negated negated' : List (Path × Predicate)} :
      negated.Perm negated' → Rearranged (.group fields negated) (.group fields negated')
  | items {fields fields' : List (Int × Predicate)} :
      fields.Perm fields' → Rearranged (.indexGroup fields) (.indexGroup fields')
  | inField (before after : List (String × Predicate)) (key : String)
      (negated : List (Path × Predicate)) {p q : Predicate} : Rearranged p q →
      Rearranged (.group (before ++ (key, p) :: after) negated)
        (.group (before ++ (key, q) :: after) negated)
  | inNegated (fields : List (String × Predicate)) (before after : List (Path × Predicate))
      (path : Path) {p q : Predicate} : Rearranged p q →
      Rearranged (.group fields (before ++ (path, p) :: after))
        (.group fields (before ++ (path, q) :: after))
  | inItem (before after : List (Int × Predicate)) (position : Int) {p q : Predicate} :
      Rearranged p q → Rearranged (.indexGroup (before ++ (position, p) :: after))
        (.indexGroup (before ++ (position, q) :: after))
  | inElement (quantifier : Quantifier) (before after : List Predicate) {p q : Predicate} :
      Rearranged p q → Rearranged (.list quantifier (before ++ p :: after))
        (.list quantifier (before ++ q :: after))

namespace Rearranged

/-- Fields that are rearranged one by one, if each of them can be. -/
theorem ofEntries {κ : Type} (holding : List (κ × Predicate) → Predicate)
    (hentry : ∀ (before after : List (κ × Predicate)) (key : κ) {p q : Predicate}, Rearranged p q →
      Rearranged (holding (before ++ (key, p) :: after)) (holding (before ++ (key, q) :: after)))
    {fields fields' : List (κ × Predicate)}
    (h : List.Forall₂ (fun f g => f.1 = g.1 ∧ Rearranged f.2 g.2) fields fields') :
    Rearranged (holding fields) (holding fields') := by
  -- the fields that have been rearranged stand in front of those that are still to be
  suffices h : ∀ before : List (κ × Predicate),
      Rearranged (holding (before ++ fields)) (holding (before ++ fields')) from h []
  induction h with
  | nil => exact fun before => .refl _
  | @cons f g rest rest' hfield _ ih =>
    intro before
    obtain ⟨key, p⟩ := f
    obtain ⟨key', q⟩ := g
    obtain ⟨rfl, hp⟩ := hfield
    have hrest := ih (before ++ [(key, q)])
    rw [List.append_assoc, List.append_assoc] at hrest
    exact (hentry before rest key hp).trans hrest

theorem ofFields {fields fields' : List (String × Predicate)}
    (h : List.Forall₂ (fun f g => f.1 = g.1 ∧ Rearranged f.2 g.2) fields fields')
    (negated : List (Path × Predicate)) :
    Rearranged (.group fields negated) (.group fields' negated) :=
  ofEntries (Predicate.group · negated) (fun before after key _ _ => inField before after key negated) h

theorem ofItems {fields fields' : List (Int × Predicate)}
    (h : List.Forall₂ (fun f g => f.1 = g.1 ∧ Rearranged f.2 g.2) fields fields') :
    Rearranged (.indexGroup fields) (.indexGroup fields') :=
  ofEntries .indexGroup inItem h

end Rearranged

end TreePredicate.Predicate
