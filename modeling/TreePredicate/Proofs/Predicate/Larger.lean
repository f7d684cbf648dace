import TreePredicate.Proofs.Assignment.Pairing
import TreePredicate.Proofs.Node.Within
import TreePredicate.Proofs.Number.Same
import TreePredicate.Proofs.Predicate.Congruence
import TreePredicate.Proofs.Predicate.Regular

/-!
# Predicates on larger trees

A predicate without negated fields says nothing of the names that it does not mention. So it holds of
every tree that has more names, at any depth, than one of which it holds.

* `Quantifier.Kept` : what passes a test still does if it becomes larger;
* `run_mono`, `size_allowed_mono`, `holds_mono` : then what a quantifier says of some items it says
  of larger ones. A matching of the items with the tests keeps its cells, so a largest one can only
  grow;
* `Predicate.holds_within` : a predicate without negated fields is kept, by induction;
* `Predicate.evaluate_within` : the same for the step-by-step evaluation.
-/

set_option autoImplicit false

namespace TreePredicate

/-! ## Quantifiers -/

namespace Quantifier

variable {α : Type} {R : α → α → Prop} {tests : List (α → Bool)} {items items' : List α}

/-- What passes a test still does if it becomes larger. -/
def Kept (R : α → α → Prop) (test : α → Bool) : Prop :=
  ∀ x y, R x y → test x = true → test y = true

theorem run_mono (htests : ∀ test ∈ tests, Kept R test) (hitems : List.Forall₂ R items items')
    (h : run tests items = true) : run tests items' = true := by
  induction tests generalizing items items' with
  | nil => rfl
  | cons test rest ih =>
    rw [List.forall_mem_cons] at htests
    cases hitems with
    | nil => cases h
    | cons hitem hrest =>
      rw [run, Bool.and_eq_true] at h ⊢
      exact ⟨htests.1 _ _ hitem h.1, ih htests.2 hrest h.2⟩

/-- The same cells and more are allowed for larger items. -/
theorem size_allowed_mono (htests : ∀ test ∈ tests, Kept R test)
    (hitems : List.Forall₂ R items items') :
    Matching.size (allowed tests items) ≤ Matching.size (allowed tests items') := by
  have hlength := hitems.length_eq
  have hrows : Matching.size (allowed tests items') =
      Matching.size fun i j => allowed tests items' (i.cast hlength) j :=
    (Matching.size_congr hlength rfl fun _ _ => rfl).symm
  rw [hrows]
  refine Matching.size_mono fun i j hallowed => ?_
  have hitem := (List.forall₂_iff_get.mp hitems).2 i i.isLt (hlength ▸ i.isLt)
  exact htests _ (List.getElem_mem j.isLt) _ _ hitem hallowed

theorem any_mono (htests : ∀ test ∈ tests, Kept R test) (hitems : List.Forall₂ R items items')
    (h : (items.any fun x => tests.any fun test => test x) = true) :
    (items'.any fun x => tests.any fun test => test x) = true := by
  simp only [List.any_eq_true] at h ⊢
  obtain ⟨x, hx, test, htest, hpasses⟩ := h
  obtain ⟨i, hi, rfl⟩ := List.mem_iff_getElem.mp hx
  have hi' : i < items'.length := hitems.length_eq ▸ hi
  have hitem := (List.forall₂_iff_get.mp hitems).2 i hi hi'
  exact ⟨items'[i], List.getElem_mem hi', test, htest, htests test htest _ _ hitem hpasses⟩

/-- What a quantifier says of some items, it says of larger ones. -/
theorem holds_mono (quantifier : Quantifier) (htests : ∀ test ∈ tests, Kept R test)
    (hitems : List.Forall₂ R items items') (h : quantifier.holds tests items = true) :
    quantifier.holds tests items' = true := by
  have hlength := hitems.length_eq
  have hrun : ∀ n, run tests (items.drop n) = true → run tests (items'.drop n) = true :=
    fun n => run_mono htests (List.forall₂_drop n hitems)
  cases quantifier with
  | exact =>
    rw [holds, Bool.and_eq_true] at h ⊢
    exact ⟨hlength ▸ h.1, run_mono htests hitems h.2⟩
  | any =>
    rw [holds] at h ⊢
    split
    · next hempty =>
      rw [if_pos hempty] at h
      cases hitems with
      | nil => rfl
      | cons => cases h
    · next hnonempty =>
      rw [if_neg hnonempty] at h
      exact any_mono htests hitems h
  | subset =>
    rw [holds, Bool.and_eq_true, decide_eq_true_eq, beq_iff_eq] at h ⊢
    have hgrows := size_allowed_mono htests hitems
    have hmost := Matching.size_le_rows (allowed tests items')
    omega
  | superset =>
    rw [holds, Bool.and_eq_true, decide_eq_true_eq, beq_iff_eq] at h ⊢
    have hgrows := size_allowed_mono htests hitems
    have hmost := Matching.size_le_columns (allowed tests items')
    omega
  | startsWith =>
    rw [holds, Bool.and_eq_true] at h ⊢
    exact ⟨hlength ▸ h.1, run_mono htests hitems h.2⟩
  | endsWith =>
    rw [holds, Bool.and_eq_true] at h ⊢
    exact ⟨hlength ▸ h.1, hlength ▸ hrun _ h.2⟩
  | containsSequence =>
    rw [holds, List.any_eq_true] at h ⊢
    obtain ⟨start, hstart, hpasses⟩ := h
    exact ⟨start, hlength ▸ hstart, hrun start hpasses⟩

end Quantifier

/-! ## Predicates -/

namespace Predicate

variable {node other : Node}

/-- A predicate without negated fields holds of every tree that has more names, at any depth, than one
of which it holds. -/
theorem holds_within (p : Predicate) (hplain : Everywhere Unnegated p) (h : node.Within other)
    (hp : p.holds node = true) : p.holds other = true := by
  induction p generalizing node other with
  | group fields negated ihf _ =>
    obtain ⟨rfl, hfields, -⟩ := everywhere_group.mp hplain
    rw [holds_group] at hp ⊢
    obtain ⟨⟨entries, rfl⟩, hp, -⟩ := hp
    refine ⟨?_, fun f hf => ?_, List.forall_mem_nil _⟩
    · cases other with
      | compound others => exact ⟨others, rfl⟩
      | _ => cases h
    · obtain ⟨inner, hinner, hholds⟩ := hp f hf
      obtain ⟨outer, houter, hwithin⟩ := h.exists_step? hinner
      exact ⟨outer, houter, ihf f hf (hfields f hf) hwithin hholds⟩
  | indexGroup fields ih =>
    obtain ⟨-, hfields⟩ := everywhere_indexGroup.mp hplain
    rw [holds_indexGroup] at hp ⊢
    obtain ⟨⟨items, rfl⟩, hp⟩ := hp
    refine ⟨?_, fun f hf => ?_⟩
    · cases other with
      | list others => exact ⟨others, rfl⟩
      | _ => cases h
    · obtain ⟨inner, hinner, hholds⟩ := hp f hf
      obtain ⟨outer, houter, hwithin⟩ := h.exists_step? hinner
      exact ⟨outer, houter, ih f hf (hfields f hf) hwithin hholds⟩
  | number test =>
    obtain ⟨quantity, rfl, hholds⟩ := (holds_number test node).mp hp
    cases other with
    | number quantity' =>
      rw [Node.Within, Node.within, Quantity.same] at h
      refine (holds_number test _).mpr ⟨quantity', rfl, ?_⟩
      rwa [← Interval.holds_congr _ (Number.point?_eq_of_same h)]
    | _ => cases h
  | text value =>
    rw [holds_text] at hp
    subst hp
    cases other with
    | text actual =>
      rw [Node.Within, Node.within, beq_iff_eq] at h
      rw [holds_text, h]
    | _ => cases h
  | pattern pattern =>
    obtain ⟨actual, rfl, haccepts⟩ := (holds_pattern pattern node).mp hp
    cases other with
    | text actual' =>
      rw [Node.Within, Node.within, beq_iff_eq] at h
      exact (holds_pattern pattern _).mpr ⟨actual', rfl, h ▸ haccepts⟩
    | _ => cases h
  | list quantifier elements ih =>
    obtain ⟨-, helements⟩ := everywhere_list.mp hplain
    obtain ⟨items, rfl, hholds⟩ := (holds_list quantifier elements node).mp hp
    cases other with
    | list others =>
      have htests : ∀ test ∈ elements.map holds, Quantifier.Kept Node.Within test :=
        List.forall_mem_map.mpr fun p hp _ _ hxy => ih p hp (helements p hp) hxy
      exact (holds_list quantifier elements _).mpr
        ⟨others, rfl, quantifier.holds_mono htests h.list hholds⟩
    | _ => cases h

/-- A predicate without negated fields is satisfied by every tree that has more names, at any depth,
than one by which it is satisfied. -/
theorem evaluate_within (p : Predicate) (hplain : Everywhere Unnegated p) {node other : Node}
    (h : node.within other = true) (hp : p.evaluate node = .ok true) :
    p.evaluate other = .ok true := by
  rw [evaluate_eq, Except.ok.injEq] at hp ⊢
  exact holds_within p hplain h hp

/-- A chest with two different items among its items, of which one weighs two, behind its lock. -/
def stocked : Predicate :=
  .group [("items", .list .superset [.group [("id", .text "map")] [], .group [] []]),
    ("lock", .indexGroup [(-1, .group [("mass", .number (.equals (.int 2) none))] [])])] []

/-- A chest with just what is asked for. -/
def stockedChest : Node :=
  .compound [("items", .list [.compound [], .compound [("id", .text "map")]]),
    ("lock", .list [.compound [("mass", .number twoWhole)]])]

/-- The same with more names: for the chest, for an item and for its lock. -/
def labelledChest : Node :=
  .compound [("id", .text "chest"),
    ("lock", .list [.compound [("id", .text "iron"), ("mass", .number twoDouble)]]),
    ("items", .list [.compound [("id", .text "map")], .compound [("id", .text "map")]])]

theorem evaluate_within_chest :
    stockedChest.within labelledChest = true ∧ stocked.evaluate stockedChest = .ok true ∧
      stocked.evaluate labelledChest = .ok true := by
  have htwo : (Number.int 2).same (.double (Double.ofInt 2)) = true := by decide +kernel
  have hwithin : stockedChest.within labelledChest = true := by
    simp [stockedChest, labelledChest, Node.within, Node.entriesWithin, Node.itemsWithin, Table.find?,
      Quantity.same, twoWhole, twoDouble, htwo]
  have hplain : Everywhere Unnegated stocked := by
    simp [stocked, everywhere_group, everywhere_indexGroup, everywhere_list, Unnegated,
      everywhere_leaf (p := .text _) rfl, everywhere_leaf (p := .number _) rfl]
  have hstocked : stocked.evaluate stockedChest = .ok true := by
    rw [evaluate_eq]
    decide +kernel
  exact ⟨hwithin, hstocked, evaluate_within stocked hplain hwithin hstocked⟩

end Predicate

end TreePredicate
