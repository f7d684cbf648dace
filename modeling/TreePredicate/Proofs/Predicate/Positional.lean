import TreePredicate.Proofs.Assignment.Pairing

/-!
# Where elements stand among items

Four quantifiers say where the elements of a list predicate stand among the items of a list: they
take up all of it, its beginning, its end, or some stretch of it. The other three look for partners
wherever they are, through matchings.

* `Quantifier.Meets` : each test is passed by the item at its place;
* `run_iff` : a run goes through exactly if some first items meet the tests;
* `holds_exact_iff`, `holds_startsWith_iff`, `holds_endsWith_iff`, `holds_containsSequence_iff` : the
  four positional quantifiers as ways to cut a list;
* `holds_superset_of_containsSequence`, `holds_subset_of_exact` : where the elements stand, each of
  them has found a partner;
* `holds_subset_iff_superset` : where there are as many items as elements, distinct elements for the
  items are distinct items for the elements;
* `Predicate.admits_positional` : the same of list predicates.
-/

set_option autoImplicit false

namespace TreePredicate

namespace Quantifier

variable {α : Type} {tests : List (α → Bool)} {items : List α}

/-! ## Runs -/

/-- There are as many items as tests, and each test is passed by the item at its place. -/
def Meets (tests : List (α → Bool)) (items : List α) : Prop :=
  List.Forall₂ (fun test x => test x = true) tests items

theorem Meets.length_eq (h : Meets tests items) : tests.length = items.length :=
  List.Forall₂.length_eq h

theorem meets_iff : Meets tests items ↔ items.length = tests.length ∧
    ∀ (i : Nat) (ht : i < tests.length) (hx : i < items.length), tests[i] items[i] = true := by
  unfold Meets
  rw [List.forall₂_iff_get, eq_comm]
  rfl

/-- A run goes through exactly if some first items meet the tests. -/
theorem run_iff (tests : List (α → Bool)) (items : List α) :
    run tests items = true ↔ ∃ ys zs, items = ys ++ zs ∧ Meets tests ys := by
  induction tests generalizing items with
  | nil => exact iff_of_true rfl ⟨[], items, rfl, .nil⟩
  | cons test rest ih =>
    cases items with
    | nil =>
      refine iff_of_false Bool.false_ne_true ?_
      rintro ⟨ys, zs, hcut, hmeets⟩
      obtain ⟨rfl, -⟩ := List.append_eq_nil_iff.mp hcut.symm
      cases hmeets
    | cons x others =>
      rw [run, Bool.and_eq_true, ih]
      constructor
      · rintro ⟨htest, ys, zs, rfl, hmeets⟩
        exact ⟨x :: ys, zs, rfl, .cons htest hmeets⟩
      · rintro ⟨ys, zs, hcut, hmeets⟩
        cases hmeets with
        | cons htest hrest =>
          rw [List.cons_append, List.cons.injEq] at hcut
          obtain ⟨rfl, rfl⟩ := hcut
          exact ⟨htest, _, zs, rfl, hrest⟩

/-- A run through as many items as there are tests goes through all of them. -/
theorem run_iff_of_length (h : items.length = tests.length) :
    run tests items = true ↔ Meets tests items := by
  rw [run_iff]
  constructor
  · rintro ⟨ys, zs, rfl, hmeets⟩
    have hlength := hmeets.length_eq
    rw [List.length_append] at h
    obtain rfl : zs = [] := List.eq_nil_of_length_eq_zero (by omega)
    rwa [List.append_nil]
  · exact fun hmeets => ⟨items, [], (List.append_nil items).symm, hmeets⟩

/-! ## Positional quantifiers -/

theorem holds_exact_iff (tests : List (α → Bool)) (items : List α) :
    Quantifier.exact.holds tests items = true ↔ Meets tests items := by
  rw [holds, Bool.and_eq_true, beq_iff_eq]
  constructor
  · rintro ⟨hlength, hrun⟩
    exact (run_iff_of_length hlength).mp hrun
  · intro hmeets
    exact ⟨hmeets.length_eq.symm, (run_iff_of_length hmeets.length_eq.symm).mpr hmeets⟩

theorem holds_startsWith_iff (tests : List (α → Bool)) (items : List α) :
    Quantifier.startsWith.holds tests items = true ↔
      ∃ ys zs, items = ys ++ zs ∧ Meets tests ys := by
  rw [holds, Bool.and_eq_true, decide_eq_true_eq, run_iff]
  refine and_iff_right_of_imp ?_
  rintro ⟨ys, zs, rfl, hmeets⟩
  rw [List.length_append, hmeets.length_eq]
  exact Nat.le_add_right _ _

theorem holds_endsWith_iff (tests : List (α → Bool)) (items : List α) :
    Quantifier.endsWith.holds tests items = true ↔
      ∃ ws ys, items = ws ++ ys ∧ Meets tests ys := by
  rw [holds, Bool.and_eq_true, decide_eq_true_eq]
  constructor
  · rintro ⟨hle, hrun⟩
    have hlength : (items.drop (items.length - tests.length)).length = tests.length := by
      rw [List.length_drop]
      omega
    exact ⟨_, _, (List.take_append_drop _ items).symm, (run_iff_of_length hlength).mp hrun⟩
  · rintro ⟨ws, ys, rfl, hmeets⟩
    have hlength := hmeets.length_eq
    have hstart : (ws ++ ys).length - tests.length = ws.length := by
      rw [List.length_append]
      omega
    rw [hstart, List.drop_left, run_iff_of_length hlength.symm, List.length_append]
    exact ⟨by omega, hmeets⟩

theorem holds_containsSequence_iff (tests : List (α → Bool)) (items : List α) :
    Quantifier.containsSequence.holds tests items = true ↔
      ∃ ws ys zs, items = ws ++ ys ++ zs ∧ Meets tests ys := by
  rw [holds, List.any_eq_true]
  constructor
  · rintro ⟨start, -, hrun⟩
    obtain ⟨ys, zs, hcut, hmeets⟩ := (run_iff _ _).mp hrun
    refine ⟨items.take start, ys, zs, ?_, hmeets⟩
    rw [List.append_assoc, ← hcut, List.take_append_drop]
  · rintro ⟨ws, ys, zs, rfl, hmeets⟩
    have hlength := hmeets.length_eq
    refine ⟨ws.length, List.mem_range.mpr ?_, ?_⟩
    · rw [List.length_append, List.length_append]
      omega
    · rw [List.append_assoc, List.drop_left]
      exact (run_iff _ _).mpr ⟨ys, zs, rfl, hmeets⟩

/-! ## From one quantifier to another -/

theorem holds_startsWith_of_exact (h : Quantifier.exact.holds tests items = true) :
    Quantifier.startsWith.holds tests items = true :=
  (holds_startsWith_iff _ _).mpr
    ⟨items, [], (List.append_nil items).symm, (holds_exact_iff _ _).mp h⟩

theorem holds_endsWith_of_exact (h : Quantifier.exact.holds tests items = true) :
    Quantifier.endsWith.holds tests items = true :=
  (holds_endsWith_iff _ _).mpr ⟨[], items, rfl, (holds_exact_iff _ _).mp h⟩

theorem holds_containsSequence_of_startsWith
    (h : Quantifier.startsWith.holds tests items = true) :
    Quantifier.containsSequence.holds tests items = true := by
  obtain ⟨ys, zs, hcut, hmeets⟩ := (holds_startsWith_iff _ _).mp h
  exact (holds_containsSequence_iff _ _).mpr ⟨[], ys, zs, hcut, hmeets⟩

theorem holds_containsSequence_of_endsWith (h : Quantifier.endsWith.holds tests items = true) :
    Quantifier.containsSequence.holds tests items = true := by
  obtain ⟨ws, ys, hcut, hmeets⟩ := (holds_endsWith_iff _ _).mp h
  refine (holds_containsSequence_iff _ _).mpr ⟨ws, ys, [], ?_, hmeets⟩
  rw [List.append_nil, hcut]

/-- Where a stretch of the items meets the tests, each test has an item of its own. -/
theorem holds_superset_of_containsSequence
    (h : Quantifier.containsSequence.holds tests items = true) :
    Quantifier.superset.holds tests items = true := by
  obtain ⟨ws, ys, zs, rfl, hmeets⟩ := (holds_containsSequence_iff _ _).mp h
  obtain ⟨hlength, hpasses⟩ := meets_iff.mp hmeets
  have hlt : ∀ j : Fin tests.length, ws.length + j < (ws ++ ys ++ zs).length := by
    intro j
    rw [List.length_append, List.length_append]
    omega
  refine (holds_superset_iff _ _).mpr ⟨fun j => ⟨ws.length + j, hlt j⟩, ?_, ?_⟩
  · intro j k heq
    rw [Fin.mk.injEq] at heq
    exact Fin.ext (by omega)
  · intro j
    have hj : j.val < ys.length := Nat.lt_of_lt_of_eq j.isLt hlength.symm
    have hitem : (ws ++ ys ++ zs).get ⟨ws.length + j, hlt j⟩ = ys[j.val] := by
      simp [hj]
    rw [hitem]
    exact hpasses j j.isLt hj

/-- Where all items meet the tests, each item has a test of its own. -/
theorem holds_subset_of_exact (h : Quantifier.exact.holds tests items = true) :
    Quantifier.subset.holds tests items = true := by
  obtain ⟨hlength, hpasses⟩ := meets_iff.mp ((holds_exact_iff _ _).mp h)
  refine (holds_subset_iff _ _).mpr ⟨Fin.cast hlength, Fin.cast_injective hlength, ?_⟩
  intro i
  exact hpasses i (hlength ▸ i.isLt) i.isLt

/-- One item that passes one test is enough for `any`. -/
theorem holds_any_of_passes {i : Fin items.length} {j : Fin tests.length}
    (h : tests.get j (items.get i) = true) : Quantifier.any.holds tests items = true := by
  have hne : ¬ tests.isEmpty = true := by
    rw [List.isEmpty_iff_length_eq_zero]
    have hpos := j.pos
    omega
  rw [holds, if_neg hne, List.any_eq_true]
  refine ⟨_, List.get_mem items i, ?_⟩
  rw [List.any_eq_true]
  exact ⟨_, List.get_mem tests j, h⟩

theorem holds_any_of_superset (hne : tests ≠ [])
    (h : Quantifier.superset.holds tests items = true) :
    Quantifier.any.holds tests items = true := by
  obtain ⟨g, -, hpasses⟩ := (holds_superset_iff _ _).mp h
  exact holds_any_of_passes (hpasses ⟨0, List.length_pos_of_ne_nil hne⟩)

theorem holds_any_of_subset (hne : items ≠ [])
    (h : Quantifier.subset.holds tests items = true) :
    Quantifier.any.holds tests items = true := by
  obtain ⟨f, -, hpasses⟩ := (holds_subset_iff _ _).mp h
  exact holds_any_of_passes (hpasses ⟨0, List.length_pos_of_ne_nil hne⟩)

/-- An injective choice of partners in a set of the same size can be read backwards. -/
theorem exists_inverse {m n : Nat} (hlength : m = n) {f : Fin m → Fin n}
    (hf : Function.Injective f) :
    ∃ g : Fin n → Fin m, Function.Injective g ∧ ∀ j, f (g j) = j := by
  subst hlength
  have hbijective := Finite.injective_iff_bijective.mp hf
  refine ⟨(Equiv.ofBijective f hbijective).symm, Equiv.injective _, ?_⟩
  exact fun j => (Equiv.ofBijective f hbijective).apply_symm_apply j

theorem holds_subset_iff_superset (hlength : items.length = tests.length) :
    Quantifier.subset.holds tests items = true ↔
      Quantifier.superset.holds tests items = true := by
  rw [holds_subset_iff, holds_superset_iff]
  constructor
  · rintro ⟨f, hf, hpasses⟩
    obtain ⟨g, hg, hinverse⟩ := exists_inverse hlength hf
    refine ⟨g, hg, fun j => ?_⟩
    have hpass := hpasses (g j)
    rwa [hinverse] at hpass
  · rintro ⟨g, hg, hpasses⟩
    obtain ⟨f, hf, hinverse⟩ := exists_inverse hlength.symm hg
    refine ⟨f, hf, fun i => ?_⟩
    have hpass := hpasses (f i)
    rwa [hinverse] at hpass

end Quantifier

/-! ## Predicates -/

namespace Predicate

variable {elements : List Predicate} {items : List Node}

/-- A list of some items satisfies the list predicate of a quantifier and some elements. -/
def Admits (quantifier : Quantifier) (elements : List Predicate) (items : List Node) : Prop :=
  (Predicate.list quantifier elements).evaluate (.list items) = .ok true

theorem admits_iff {quantifier : Quantifier} : Admits quantifier elements items ↔
    quantifier.holds (elements.map holds) items = true := by
  unfold Admits
  rw [evaluate_list, Except.ok.injEq]

theorem not_admits_iff {quantifier : Quantifier} : ¬ Admits quantifier elements items ↔
    (Predicate.list quantifier elements).evaluate (.list items) = .ok false := by
  rw [admits_iff, evaluate_list, Except.ok.injEq, Bool.not_eq_true]

theorem admits_exact_iff : Admits .exact elements items ↔ items.length = elements.length ∧
    ∀ (i : Nat) (hp : i < elements.length) (hx : i < items.length),
      elements[i].evaluate items[i] = .ok true := by
  rw [admits_iff, Quantifier.holds_exact_iff, Quantifier.meets_iff]
  simp only [List.length_map, List.getElem_map, evaluate_eq, Except.ok.injEq]

theorem meets_iff_admits {ys : List Node} :
    Quantifier.Meets (elements.map holds) ys ↔ Admits .exact elements ys := by
  rw [admits_iff, Quantifier.holds_exact_iff]

/-- The elements of `exact` are met by all items, each by the one at its place. Those of `startsWith`,
`endsWith` and `containsSequence` are met in the same way by the items at the beginning, at the end
and in some stretch of the list. What each of these says follows from what a stricter one says, and
so do the quantifiers that look for partners wherever they are. -/
theorem admits_positional (elements : List Predicate) (items : List Node) :
    (∀ quantifier, ¬ Admits quantifier elements items ↔
      (Predicate.list quantifier elements).evaluate (.list items) = .ok false) ∧
    ((Admits .exact elements items ↔ items.length = elements.length ∧
        ∀ (i : Nat) (hp : i < elements.length) (hx : i < items.length),
          elements[i].evaluate items[i] = .ok true) ∧
      (Admits .startsWith elements items ↔
        ∃ ys zs, items = ys ++ zs ∧ Admits .exact elements ys) ∧
      (Admits .endsWith elements items ↔
        ∃ ws ys, items = ws ++ ys ∧ Admits .exact elements ys) ∧
      (Admits .containsSequence elements items ↔
        ∃ ws ys zs, items = ws ++ ys ++ zs ∧ Admits .exact elements ys)) ∧
    (Admits .exact elements items →
      Admits .startsWith elements items ∧ Admits .endsWith elements items ∧
        Admits .subset elements items) ∧
    (Admits .startsWith elements items ∨ Admits .endsWith elements items →
      Admits .containsSequence elements items) ∧
    (Admits .containsSequence elements items → Admits .superset elements items) ∧
    (elements ≠ [] → Admits .superset elements items → Admits .any elements items) ∧
    (items ≠ [] → Admits .subset elements items → Admits .any elements items) ∧
    (items.length = elements.length →
      (Admits .subset elements items ↔ Admits .superset elements items)) := by
  refine ⟨fun _ => not_admits_iff, ⟨admits_exact_iff, ?_, ?_, ?_⟩, ?_, ?_, ?_, ?_, ?_, ?_⟩
  · simp only [← meets_iff_admits]
    rw [admits_iff, Quantifier.holds_startsWith_iff]
  · simp only [← meets_iff_admits]
    rw [admits_iff, Quantifier.holds_endsWith_iff]
  · simp only [← meets_iff_admits]
    rw [admits_iff, Quantifier.holds_containsSequence_iff]
  · simp only [admits_iff]
    intro h
    exact ⟨Quantifier.holds_startsWith_of_exact h, Quantifier.holds_endsWith_of_exact h,
      Quantifier.holds_subset_of_exact h⟩
  · simp only [admits_iff]
    rintro (h | h)
    · exact Quantifier.holds_containsSequence_of_startsWith h
    · exact Quantifier.holds_containsSequence_of_endsWith h
  · simp only [admits_iff]
    exact Quantifier.holds_superset_of_containsSequence
  · simp only [admits_iff]
    intro hne h
    exact Quantifier.holds_any_of_superset (by simpa using hne) h
  · simp only [admits_iff]
    intro hne h
    exact Quantifier.holds_any_of_subset hne h
  · simp only [admits_iff]
    intro hlength
    exact Quantifier.holds_subset_iff_superset (by rwa [List.length_map])

/-- Two elements, of which the first one admits every compound. -/
def boxThenMap : List Predicate := [.group [] [], .text "map"]

/-- Two items that satisfy these elements in their order. -/
def packed : List Node := [.compound [("id", .text "box")], .text "map"]

/-- The same items before another one. -/
def crammed : List Node := packed ++ [.text "egg"]

theorem admits_positional_packed :
    (Admits .exact boxThenMap packed ∧ Admits .superset boxThenMap packed ∧
        Admits .any boxThenMap packed) ∧
      Admits .startsWith boxThenMap crammed ∧ Admits .superset boxThenMap crammed ∧
        Admits .any boxThenMap crammed := by
  obtain ⟨-, ⟨hexact, -⟩, hwhole, -, -, -, hsubset, hboth⟩ := admits_positional boxThenMap packed
  obtain ⟨-, ⟨-, hstarts, -⟩, -, hpart, hstretch, hsuperset, -⟩ :=
    admits_positional boxThenMap crammed
  have hpacked : Admits .exact boxThenMap packed := by
    refine hexact.mpr ⟨rfl, fun i hp hx => ?_⟩
    rw [evaluate_eq]
    revert hp hx
    decide +revert
  obtain ⟨-, -, hpackedSubset⟩ := hwhole hpacked
  have hcrammed := hstarts.mpr ⟨packed, _, rfl, hpacked⟩
  have hcrammedSuperset := hstretch (hpart (.inl hcrammed))
  refine ⟨⟨hpacked, (hboth rfl).mp hpackedSubset, ?_⟩, hcrammed, hcrammedSuperset, ?_⟩
  · exact hsubset (List.cons_ne_nil _ _) hpackedSubset
  · exact hsuperset (List.cons_ne_nil _ _) hcrammedSuperset

end Predicate

end TreePredicate
