import TreePredicate.Predicate.Holds

/-!
# Induction over predicates

* `Predicate.induct` : structural induction with one case for each kind of predicate, in which the
  members of a predicate are known by membership, so that each proof over predicates is one
  induction and not five;
* `wellFormed_group`, `wellFormed_indexGroup`, `wellFormed_list` : what it takes to be well formed;
* `holds_group`, `holds_indexGroup`, `holds_number`, `holds_text`, `holds_pattern`, `holds_list` :
  what it takes to satisfy each kind of predicate.
-/

set_option autoImplicit false

namespace TreePredicate.Predicate

/-! ## Induction -/

theorem sizeOf_snd_lt {κ : Type} [SizeOf κ] {entries : List (κ × Predicate)} {e : κ × Predicate}
    (h : e ∈ entries) : sizeOf e.2 < sizeOf entries := by
  have hlt := List.sizeOf_lt_of_mem h
  obtain ⟨k, p⟩ := e
  rw [Prod.mk.sizeOf_spec] at hlt
  show sizeOf p < sizeOf entries
  omega

/-- Induction over predicates. The hypotheses of a case cover the members by membership. -/
@[induction_eliminator]
theorem induct {motive : Predicate → Prop}
    (group : ∀ fields negated, (∀ f ∈ fields, motive f.2) → (∀ f ∈ negated, motive f.2) →
      motive (.group fields negated))
    (indexGroup : ∀ fields, (∀ f ∈ fields, motive f.2) → motive (.indexGroup fields))
    (number : ∀ test, motive (.number test))
    (text : ∀ value, motive (.text value))
    (pattern : ∀ p, motive (.pattern p))
    (list : ∀ quantifier elements, (∀ p ∈ elements, motive p) →
      motive (.list quantifier elements)) :
    ∀ p, motive p
  | .group fields negated =>
    group fields negated
      (fun f hf => by
        have := sizeOf_snd_lt hf
        exact induct group indexGroup number text pattern list f.2)
      (fun f hf => by
        have := sizeOf_snd_lt hf
        exact induct group indexGroup number text pattern list f.2)
  | .indexGroup fields =>
    indexGroup fields fun f hf => by
      have := sizeOf_snd_lt hf
      exact induct group indexGroup number text pattern list f.2
  | .number test => number test
  | .text value => text value
  | .pattern p => pattern p
  | .list quantifier elements =>
    list quantifier elements fun p hp => by
      have := List.sizeOf_lt_of_mem hp
      exact induct group indexGroup number text pattern list p
termination_by p => sizeOf p
decreasing_by all_goals (simp only [Predicate.group.sizeOf_spec, Predicate.indexGroup.sizeOf_spec,
  Predicate.list.sizeOf_spec]; omega)

/-! ## Well-formed predicates -/

theorem fieldsWellFormed_iff (fields : List (String × Predicate)) :
    FieldsWellFormed fields ↔ ∀ f ∈ fields, f.2.WellFormed := by
  induction fields with
  | nil => simp [FieldsWellFormed]
  | cons f rest ih => rw [FieldsWellFormed, ih, List.forall_mem_cons]

theorem itemsWellFormed_iff (fields : List (Int × Predicate)) :
    ItemsWellFormed fields ↔ ∀ f ∈ fields, f.2.WellFormed := by
  induction fields with
  | nil => simp [ItemsWellFormed]
  | cons f rest ih => rw [ItemsWellFormed, ih, List.forall_mem_cons]

theorem negatedWellFormed_iff (negated : List (Path × Predicate)) :
    NegatedWellFormed negated ↔ ∀ f ∈ negated, f.2.WellFormed := by
  induction negated with
  | nil => simp [NegatedWellFormed]
  | cons f rest ih => rw [NegatedWellFormed, ih, List.forall_mem_cons]

theorem elementsWellFormed_iff (elements : List Predicate) :
    ElementsWellFormed elements ↔ ∀ p ∈ elements, p.WellFormed := by
  induction elements with
  | nil => simp [ElementsWellFormed]
  | cons p rest ih => rw [ElementsWellFormed, ih, List.forall_mem_cons]

theorem wellFormed_group (fields : List (String × Predicate))
    (negated : List (Path × Predicate)) :
    (Predicate.group fields negated).WellFormed ↔
      Table.Distinct fields ∧ (∀ f ∈ fields, f.2.WellFormed) ∧ ∀ f ∈ negated, f.2.WellFormed := by
  rw [WellFormed, fieldsWellFormed_iff, negatedWellFormed_iff]

theorem wellFormed_indexGroup (fields : List (Int × Predicate)) :
    (Predicate.indexGroup fields).WellFormed ↔
      Table.Distinct fields ∧ ∀ f ∈ fields, f.2.WellFormed := by
  rw [WellFormed, itemsWellFormed_iff]

theorem wellFormed_list (quantifier : Quantifier) (elements : List Predicate) :
    (Predicate.list quantifier elements).WellFormed ↔ ∀ p ∈ elements, p.WellFormed := by
  rw [WellFormed, elementsWellFormed_iff]

/-! ## Satisfying a predicate -/

theorem fieldsHold_iff (fields : List (String × Predicate)) (entries : List (String × Node)) :
    fieldsHold fields entries = true ↔
      ∀ f ∈ fields, ∃ node, Table.find? f.1 entries = some node ∧ f.2.holds node = true := by
  induction fields with
  | nil => simp [fieldsHold]
  | cons f rest ih =>
    obtain ⟨name, p⟩ := f
    rw [fieldsHold, Bool.and_eq_true, ih, List.forall_mem_cons]
    refine and_congr ?_ Iff.rfl
    cases h : Table.find? name entries with
    | none => simp
    | some node => simp

theorem itemsHold_iff (fields : List (Int × Predicate)) (items : List Node) :
    itemsHold fields items = true ↔
      ∀ f ∈ fields, ∃ node, atPosition? items f.1 = some node ∧ f.2.holds node = true := by
  induction fields with
  | nil => simp [itemsHold]
  | cons f rest ih =>
    obtain ⟨position, p⟩ := f
    rw [itemsHold, Bool.and_eq_true, ih, List.forall_mem_cons]
    refine and_congr ?_ Iff.rfl
    cases h : atPosition? items position with
    | none => simp
    | some node => simp

theorem noneHolds_iff (negated : List (Path × Predicate)) (node : Node) :
    noneHolds negated node = true ↔
      ∀ f ∈ negated, ∀ target, node.resolve? f.1 = some target → f.2.holds target = false := by
  induction negated with
  | nil => simp [noneHolds]
  | cons f rest ih =>
    obtain ⟨path, p⟩ := f
    rw [noneHolds, Bool.and_eq_true, ih, List.forall_mem_cons]
    refine and_congr ?_ Iff.rfl
    cases h : node.resolve? path with
    | none => simp
    | some target => simp

theorem tests_eq_map (elements : List Predicate) : tests elements = elements.map holds := by
  induction elements with
  | nil => rfl
  | cons p rest ih => rw [tests, ih, List.map_cons]

theorem holds_group (fields : List (String × Predicate)) (negated : List (Path × Predicate))
    (node : Node) :
    (Predicate.group fields negated).holds node = true ↔
      (∃ entries, node = .compound entries) ∧
      (∀ f ∈ fields, ∃ inner, node.step? (.key f.1) = some inner ∧ f.2.holds inner = true) ∧
      ∀ f ∈ negated, ∀ target, node.resolve? f.1 = some target → f.2.holds target = false := by
  cases node with
  | compound entries =>
    rw [holds, Bool.and_eq_true, fieldsHold_iff, noneHolds_iff]
    simp [Node.step?]
  | _ => simp [holds]

theorem holds_indexGroup (fields : List (Int × Predicate)) (node : Node) :
    (Predicate.indexGroup fields).holds node = true ↔
      (∃ items, node = .list items) ∧
      ∀ f ∈ fields, ∃ inner, node.step? (.index f.1) = some inner ∧ f.2.holds inner = true := by
  cases node with
  | list items =>
    rw [holds, itemsHold_iff]
    simp [Node.step?]
  | _ => simp [holds]

theorem holds_number (test : NumberTest) (node : Node) :
    (Predicate.number test).holds node = true ↔
      ∃ quantity, node = .number quantity ∧
        (Interval.ofTest test).holds quantity.value = true := by
  cases node <;> simp [holds]

theorem holds_text (value : String) (node : Node) :
    (Predicate.text value).holds node = true ↔ node = .text value := by
  cases node <;> simp [holds]

theorem holds_pattern (p : Pattern) (node : Node) :
    (Predicate.pattern p).holds node = true ↔
      ∃ actual, node = .text actual ∧ p.accepts actual = true := by
  cases node <;> simp [holds]

theorem holds_list (quantifier : Quantifier) (elements : List Predicate) (node : Node) :
    (Predicate.list quantifier elements).holds node = true ↔
      ∃ items, node = .list items ∧ quantifier.holds (elements.map holds) items = true := by
  rw [← tests_eq_map]
  cases node <;> simp [holds]

end TreePredicate.Predicate
