import TreePredicate.Proofs.Predicate.Regular
import TreePredicate.Proofs.Table

/-!
# Equality of predicates

* `sameFields_iff`, `sameItems_iff` : what it takes for fields to be equal;
* `same_self` : a regular predicate equals itself. A predicate with not-a-number would not.
-/

set_option autoImplicit false

namespace TreePredicate

theorem Number.same_self {value : Number} (h : value.Readable) : value.same value = true := by
  unfold Number.same
  cases value with
  | int n => exact beq_self_eq_true _
  | double d =>
    cases d with
    | nan => cases h
    | infinite negative => cases h
    | finite negative m => exact beq_self_eq_true _

theorem NumberTest.same_self {test : NumberTest}
    (h : ∀ value ∈ Predicate.testNumbers test, value.Readable) : test.same test = true := by
  have hbound : ∀ bound? : Option Number, (∀ value ∈ bound?.toList, value.Readable) →
      sameBound bound? bound? = true := by
    intro bound? hbound
    cases bound? with
    | none => rfl
    | some value => exact Number.same_self (hbound value List.mem_cons_self)
  cases test with
  | equals value width? =>
    rw [same, Number.same_self (h value List.mem_cons_self), beq_self_eq_true, Bool.and_self]
  | compare comparison value width? =>
    rw [same, Number.same_self (h value List.mem_cons_self), beq_self_eq_true, beq_self_eq_true,
      Bool.and_self, Bool.and_self]
  | range lower? upper? lowerIncluded upperIncluded width? =>
    rw [Predicate.testNumbers, List.forall_mem_append] at h
    rw [same, hbound lower? h.1, hbound upper? h.2, beq_self_eq_true, beq_self_eq_true,
      beq_self_eq_true]
    rfl

namespace Predicate

theorem sameFields_iff (fields others : List (String × Predicate)) :
    sameFields fields others = true ↔
      ∀ f ∈ fields, ∃ q, Table.find? f.1 others = some q ∧ f.2.same q = true := by
  induction fields with
  | nil => simp [sameFields]
  | cons f rest ih =>
    obtain ⟨name, p⟩ := f
    rw [sameFields, Bool.and_eq_true, ih, List.forall_mem_cons]
    refine and_congr ?_ Iff.rfl
    cases h : Table.find? name others with
    | none => simp
    | some q => simp

theorem sameItems_iff (fields others : List (Int × Predicate)) :
    sameItems fields others = true ↔
      ∀ f ∈ fields, ∃ q, Table.find? f.1 others = some q ∧ f.2.same q = true := by
  induction fields with
  | nil => simp [sameItems]
  | cons f rest ih =>
    obtain ⟨position, p⟩ := f
    rw [sameItems, Bool.and_eq_true, ih, List.forall_mem_cons]
    refine and_congr ?_ Iff.rfl
    cases h : Table.find? position others with
    | none => simp
    | some q => simp

theorem sameNegated_self {negated : List (Path × Predicate)}
    (h : ∀ f ∈ negated, f.2.same f.2 = true) : sameNegated negated negated = true := by
  induction negated with
  | nil => rw [sameNegated]
  | cons f rest ih =>
    rw [List.forall_mem_cons] at h
    rw [sameNegated, h.1, ih h.2, beq_self_eq_true]
    rfl

theorem sameElements_self {elements : List Predicate} (h : ∀ p ∈ elements, p.same p = true) :
    sameElements elements elements = true := by
  induction elements with
  | nil => rw [sameElements]
  | cons p rest ih =>
    rw [List.forall_mem_cons] at h
    rw [sameElements, h.1, ih h.2, Bool.and_self]

/-- A regular predicate equals itself. -/
theorem same_self {p : Predicate} (h : Everywhere Regular p) : p.same p = true := by
  induction p with
  | group fields negated ihfields ihnegated =>
    obtain ⟨⟨hdistinct, -⟩, hfields, hnegated⟩ := everywhere_group.mp h
    rw [same, beq_self_eq_true, (sameFields_iff fields fields).mpr fun f hf =>
      ⟨f.2, Table.find?_eq_of_mem hdistinct hf, ihfields f hf (hfields f hf)⟩,
      sameNegated_self fun f hf => ihnegated f hf (hnegated f hf)]
    rfl
  | indexGroup fields ih =>
    obtain ⟨⟨hdistinct, -⟩, hfields⟩ := everywhere_indexGroup.mp h
    rw [same, beq_self_eq_true, (sameItems_iff fields fields).mpr fun f hf =>
      ⟨f.2, Table.find?_eq_of_mem hdistinct hf, ih f hf (hfields f hf)⟩]
    rfl
  | number test => rw [same, NumberTest.same_self h.here]
  | text value => rw [same, beq_self_eq_true]
  | pattern p => rw [same, beq_self_eq_true]
  | list quantifier elements ih =>
    rw [same, beq_self_eq_true,
      sameElements_self fun p hp => ih p hp ((everywhere_list.mp h).2 p hp), Bool.and_self]

end Predicate

end TreePredicate
