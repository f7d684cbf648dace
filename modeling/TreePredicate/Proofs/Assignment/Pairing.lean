import Mathlib.Data.Fintype.EquivFin
import TreePredicate.Proofs.Assignment.Matching
import TreePredicate.Proofs.Predicate.Evaluate

/-!
# Lists as subsets and supersets

A list is a subset of some elements if its items can be given distinct elements that they satisfy,
and a superset if the elements can be given distinct items. What is computed is the number of allowed
cells in a cheapest assignment.

* `Assignment.exists_injective` : pairs that cover all rows give each row a column of its own;
* `Matching.all_rows_iff`, `Matching.all_columns_iff` : the allowed pairs of a cheapest assignment
  cover all rows, or all columns, if and only if these can be given distinct partners;
* `Predicate.evaluate_subset_superset` : so the two quantifiers find every such choice of partners,
  and no other.
-/

set_option autoImplicit false

namespace TreePredicate

namespace Assignment

variable {rows columns : Nat}

/-- Pairs in distinct rows and distinct columns, as many as there are rows, give each row a column of
its own. -/
theorem exists_injective {pairs : Assignment rows columns} (hrows : (pairs.map Prod.fst).Nodup)
    (hcolumns : (pairs.map Prod.snd).Nodup) (hlength : pairs.length = rows) :
    ∃ f : Fin rows → Fin columns, Function.Injective f ∧ ∀ i, (i, f i) ∈ pairs := by
  have hperm : (pairs.map Prod.fst).Perm (List.finRange rows) := by
    refine (List.subperm_of_subset hrows fun i _ => List.mem_finRange i).perm_of_length_le ?_
    rw [List.length_finRange, List.length_map, hlength]
  have hmem : ∀ i, ∃ j, (i, j) ∈ pairs := by
    intro i
    obtain ⟨⟨_, j⟩, hpair, rfl⟩ := List.mem_map.mp (hperm.mem_iff.mpr (List.mem_finRange i))
    exact ⟨j, hpair⟩
  choose f hf using hmem
  refine ⟨f, fun i i' heq => ?_, hf⟩
  exact congrArg Prod.fst (List.inj_on_of_nodup_map hcolumns (hf i) (hf i') heq)

/-- The same with rows and columns exchanged. -/
theorem exists_injective_columns {pairs : Assignment rows columns}
    (hrows : (pairs.map Prod.fst).Nodup) (hcolumns : (pairs.map Prod.snd).Nodup)
    (hlength : pairs.length = columns) :
    ∃ g : Fin columns → Fin rows, Function.Injective g ∧ ∀ j, (g j, j) ∈ pairs := by
  have hswapped : ∃ g : Fin columns → Fin rows, Function.Injective g ∧
      ∀ j, (j, g j) ∈ (pairs.map Prod.swap : Assignment columns rows) := by
    refine exists_injective ?_ ?_ (by rw [List.length_map, hlength])
    · rw [List.map_map]
      exact hcolumns
    · rw [List.map_map]
      exact hrows
  obtain ⟨g, hg, hmem⟩ := hswapped
  refine ⟨g, hg, fun j => ?_⟩
  obtain ⟨p, hp, heq⟩ := List.mem_map.mp (hmem j)
  rwa [← Prod.swap_swap p, heq] at hp

end Assignment

namespace Matching

open Assignment

variable {rows columns : Nat} {allowed : Grid rows columns Bool}

theorem rows_nodup_allowedPairs {pairs : Assignment rows columns} (h : Full pairs) :
    ((allowedPairs allowed pairs).map Prod.fst).Nodup :=
  h.rows_nodup.sublist ((allowedPairs_sublist allowed pairs).map Prod.fst)

theorem columns_nodup_allowedPairs {pairs : Assignment rows columns} (h : Full pairs) :
    ((allowedPairs allowed pairs).map Prod.snd).Nodup :=
  h.columns_nodup.sublist ((allowedPairs_sublist allowed pairs).map Prod.snd)

/-- The allowed pairs of a cheapest assignment cover all rows if and only if the rows can be given
distinct columns, each in an allowed cell. -/
theorem all_rows_iff {pairs : Assignment rows columns} (h : Cheapest (penalty allowed) pairs) :
    (allowedPairs allowed pairs).length = rows ↔
      ∃ f : Fin rows → Fin columns, Function.Injective f ∧ ∀ i, allowed i (f i) = true := by
  constructor
  · intro hlength
    obtain ⟨f, hf, hmem⟩ := exists_injective (rows_nodup_allowedPairs h.full)
      (columns_nodup_allowedPairs h.full) hlength
    exact ⟨f, hf, fun i => (mem_allowedPairs.mp (hmem i)).2⟩
  · rintro ⟨f, hf, hallowed⟩
    rw [length_allowedPairs_of_full h (full_rows hf) (List.forall_mem_map.mpr fun i _ => hallowed i),
      List.length_map, List.length_finRange]

/-- The allowed pairs of a cheapest assignment cover all columns if and only if the columns can be
given distinct rows, each in an allowed cell. -/
theorem all_columns_iff {pairs : Assignment rows columns} (h : Cheapest (penalty allowed) pairs) :
    (allowedPairs allowed pairs).length = columns ↔
      ∃ g : Fin columns → Fin rows, Function.Injective g ∧ ∀ j, allowed (g j) j = true := by
  constructor
  · intro hlength
    obtain ⟨g, hg, hmem⟩ := exists_injective_columns (rows_nodup_allowedPairs h.full)
      (columns_nodup_allowedPairs h.full) hlength
    exact ⟨g, hg, fun j => (mem_allowedPairs.mp (hmem j)).2⟩
  · rintro ⟨g, hg, hallowed⟩
    rw [length_allowedPairs_of_full h (full_columns hg)
      (List.forall_mem_map.mpr fun j _ => hallowed j), List.length_map, List.length_finRange]

end Matching

open Assignment Matching

/-! ## Quantifiers -/

namespace Quantifier

variable {α : Type}

/-- Every item has a test of its own that it passes. -/
theorem holds_subset_iff (tests : List (α → Bool)) (items : List α) :
    Quantifier.subset.holds tests items = true ↔
      ∃ f : Fin items.length → Fin tests.length, Function.Injective f ∧
        ∀ i : Fin items.length, tests.get (f i) (items.get i) = true := by
  rw [holds, ← length_allowedPairs_eq (solve_cheapest _)]
  simp only [Bool.and_eq_true, decide_eq_true_eq, beq_iff_eq]
  rw [all_rows_iff (solve_cheapest _)]
  refine and_iff_right_of_imp ?_
  rintro ⟨f, hf, -⟩
  simpa using Fintype.card_le_of_injective f hf

/-- Every test has an item of its own that passes it. -/
theorem holds_superset_iff (tests : List (α → Bool)) (items : List α) :
    Quantifier.superset.holds tests items = true ↔
      ∃ g : Fin tests.length → Fin items.length, Function.Injective g ∧
        ∀ j : Fin tests.length, tests.get j (items.get (g j)) = true := by
  rw [holds, ← length_allowedPairs_eq (solve_cheapest _)]
  simp only [Bool.and_eq_true, decide_eq_true_eq, beq_iff_eq]
  rw [all_columns_iff (solve_cheapest _)]
  refine and_iff_right_of_imp ?_
  rintro ⟨g, hg, -⟩
  simpa using Fintype.card_le_of_injective g hg

end Quantifier

/-! ## Predicates -/

namespace Predicate

theorem evaluate_list (quantifier : Quantifier) (elements : List Predicate) (items : List Node) :
    (Predicate.list quantifier elements).evaluate (.list items) =
      .ok (quantifier.holds (elements.map holds) items) := by
  rw [evaluate_eq, holds, tests_eq_map]

/-- A list is a subset of some elements exactly if its items can be given distinct elements that they
satisfy, and a superset exactly if the elements can be given distinct items that satisfy them. It does
not matter which of the cheapest assignments is found. -/
theorem evaluate_subset_superset (elements : List Predicate) (items : List Node) :
    (∃ decision, (Predicate.list .subset elements).evaluate (.list items) = .ok decision ∧
      (decision = true ↔
        ∃ f : Fin items.length → Fin elements.length, Function.Injective f ∧
          ∀ i : Fin items.length, elements[f i].evaluate items[i] = .ok true)) ∧
    (∃ decision, (Predicate.list .superset elements).evaluate (.list items) = .ok decision ∧
      (decision = true ↔
        ∃ g : Fin elements.length → Fin items.length, Function.Injective g ∧
          ∀ j : Fin elements.length, elements[j].evaluate items[g j] = .ok true)) ∧
    ∀ pairs, Cheapest (penalty (Quantifier.allowed (elements.map holds) items)) pairs →
      (allowedPairs (Quantifier.allowed (elements.map holds) items) pairs).length =
        Matching.size (Quantifier.allowed (elements.map holds) items) := by
  have hcast : (elements.map holds).length = elements.length := List.length_map holds
  refine ⟨⟨_, evaluate_list .subset elements items, ?_⟩,
    ⟨_, evaluate_list .superset elements items, ?_⟩, fun pairs h => length_allowedPairs_eq h⟩
  · rw [Quantifier.holds_subset_iff]
    simp only [evaluate_eq, Except.ok.injEq]
    constructor
    · rintro ⟨f, hf, hholds⟩
      exact ⟨fun i => (f i).cast hcast, (Fin.cast_injective hcast).comp hf,
        fun i => by simpa using hholds i⟩
    · rintro ⟨f, hf, hholds⟩
      exact ⟨fun i => (f i).cast hcast.symm, (Fin.cast_injective hcast.symm).comp hf,
        fun i => by simpa using hholds i⟩
  · rw [Quantifier.holds_superset_iff]
    simp only [evaluate_eq, Except.ok.injEq]
    constructor
    · rintro ⟨g, hg, hholds⟩
      exact ⟨fun j => g (j.cast hcast.symm), hg.comp (Fin.cast_injective hcast.symm),
        fun j => by simpa using hholds (j.cast hcast.symm)⟩
    · rintro ⟨g, hg, hholds⟩
      exact ⟨fun j => g (j.cast hcast), hg.comp (Fin.cast_injective hcast),
        fun j => by simpa using hholds (j.cast hcast)⟩

/-- Two elements, the first of which admits every compound. -/
def competing : List Predicate := [.group [] [], .group [("id", .text "map")] []]

/-- Two items, the first of which satisfies both elements and must leave the first one to the other. -/
def rivals : List Node := [.compound [("id", .text "map")], .compound []]

theorem evaluate_subset_superset_rivals :
    (Predicate.list .subset competing).evaluate (.list rivals) = .ok true ∧
    (Predicate.list .superset competing).evaluate (.list rivals) = .ok true ∧
    (allowedPairs (Quantifier.allowed (competing.map holds) rivals)
      (solve (penalty (Quantifier.allowed (competing.map holds) rivals)))).length =
        Matching.size (Quantifier.allowed (competing.map holds) rivals) := by
  obtain ⟨⟨subset, hsubset, hpairing⟩, ⟨superset, hsuperset, hpairing'⟩, hsize⟩ :=
    evaluate_subset_superset competing rivals
  have hrev : Function.Injective (Fin.rev : Fin 2 → Fin 2) := Fin.rev_injective
  have hitems : ∀ i : Fin rivals.length, (competing[Fin.rev i]).evaluate rivals[i] = .ok true := by
    intro i
    rw [evaluate_eq]
    decide +revert
  have helements : ∀ j : Fin competing.length,
      competing[j].evaluate (rivals[Fin.rev j]) = .ok true := by
    intro j
    rw [evaluate_eq]
    decide +revert
  refine ⟨?_, ?_, hsize _ (solve_cheapest _)⟩
  · rw [hsubset, hpairing.mpr ⟨Fin.rev, hrev, hitems⟩]
  · rw [hsuperset, hpairing'.mpr ⟨Fin.rev, hrev, helements⟩]

end Predicate

end TreePredicate
