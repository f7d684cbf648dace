import TreePredicate.Proofs.Node.Same
import TreePredicate.Proofs.Number.Same
import TreePredicate.Proofs.Predicate.Evaluate
import TreePredicate.Proofs.Predicate.Rearranged
import TreePredicate.Proofs.Predicate.Same

/-!
# Equal predicates hold of equal trees

* `Quantifier.holds_congr` : a quantifier says the same of related items, given related tests;
* `Predicate.holds_bisimilar` : no predicate tells trees apart that no step into them does;
* `Predicate.congruent_group`, `congruent_indexGroup`, `congruent_list`, `Predicate.agree_of_same` :
  equal predicates hold of equal trees alike;
* `Rearranged.everywhere` : what the order of fields has no part in stays true when they are
  rearranged; for instance, that keys are distinct;
* `Predicate.holds_rearranged` : the order of fields and of negated fields does not matter;
* `Predicate.evaluate_congr` : both for the step-by-step evaluation.
-/

set_option autoImplicit false

namespace TreePredicate

/-! ## Related lists -/

theorem forall_mem_iff_of_forall₂ {α β : Type} {R : α → β → Prop} {P : α → Prop} {Q : β → Prop}
    {xs : List α} {ys : List β} (h : List.Forall₂ R xs ys)
    (hPQ : ∀ x ∈ xs, ∀ y, R x y → (P x ↔ Q y)) : (∀ x ∈ xs, P x) ↔ ∀ y ∈ ys, Q y := by
  induction h with
  | nil => simp
  | cons hxy _ ih =>
    rw [List.forall_mem_cons] at hPQ
    rw [List.forall_mem_cons, List.forall_mem_cons, hPQ.1 _ hxy, ih hPQ.2]

/-! ## Quantifiers -/

/-- The size of a largest matching depends on the cells only. -/
theorem Matching.size_congr {rows rows' columns columns' : Nat} (hrows : rows = rows')
    (hcolumns : columns = columns') {allowed : Grid rows columns Bool}
    {allowed' : Grid rows' columns' Bool}
    (h : ∀ i j, allowed i j = allowed' (i.cast hrows) (j.cast hcolumns)) :
    size allowed = size allowed' := by
  subst hrows
  subst hcolumns
  exact congrArg size (funext fun i => funext fun j => h i j)

namespace Quantifier

variable {α β : Type} {R : α → β → Prop} {tests : List (α → Bool)} {tests' : List (β → Bool)}
  {items : List α} {items' : List β}

/-- Two tests say the same of related items. -/
def TestsAlike (R : α → β → Prop) (test : α → Bool) (test' : β → Bool) : Prop :=
  ∀ x y, R x y → test x = test' y

theorem run_congr (htests : List.Forall₂ (TestsAlike R) tests tests')
    (hitems : List.Forall₂ R items items') : run tests items = run tests' items' := by
  induction htests generalizing items items' with
  | nil => cases hitems <;> rfl
  | cons htest _ ih =>
    cases hitems with
    | nil => rfl
    | cons hitem hrest => rw [run, run, htest _ _ hitem, ih hrest]

theorem size_allowed_congr (htests : List.Forall₂ (TestsAlike R) tests tests')
    (hitems : List.Forall₂ R items items') :
    Matching.size (allowed tests items) = Matching.size (allowed tests' items') := by
  refine Matching.size_congr hitems.length_eq htests.length_eq fun i j => ?_
  have htest := (List.forall₂_iff_get.mp htests).2 j j.isLt (htests.length_eq ▸ j.isLt)
  have hitem := (List.forall₂_iff_get.mp hitems).2 i i.isLt (hitems.length_eq ▸ i.isLt)
  exact htest _ _ hitem

theorem any_tests_congr (htests : List.Forall₂ (TestsAlike R) tests tests') {x : α} {y : β}
    (hxy : R x y) : (tests.any fun test => test x) = tests'.any fun test => test y := by
  induction htests with
  | nil => rfl
  | cons htest _ ih => rw [List.any_cons, List.any_cons, htest x y hxy, ih]

theorem any_items_congr (htests : List.Forall₂ (TestsAlike R) tests tests')
    (hitems : List.Forall₂ R items items') :
    (items.any fun x => tests.any fun test => test x) =
      items'.any fun y => tests'.any fun test => test y := by
  induction hitems with
  | nil => rfl
  | cons hitem _ ih => rw [List.any_cons, List.any_cons, any_tests_congr htests hitem, ih]

/-- A quantifier says the same of related items, given tests that say the same of related items. -/
theorem holds_congr (quantifier : Quantifier) (htests : List.Forall₂ (TestsAlike R) tests tests')
    (hitems : List.Forall₂ R items items') :
    quantifier.holds tests items = quantifier.holds tests' items' := by
  have hcount := htests.length_eq
  have hsize := hitems.length_eq
  have hrun : ∀ n, run tests (items.drop n) = run tests' (items'.drop n) :=
    fun n => run_congr htests (List.forall₂_drop n hitems)
  cases quantifier with
  | exact => rw [holds, holds, hsize, hcount, run_congr htests hitems]
  | any =>
    have htestsEmpty : tests.isEmpty = tests'.isEmpty := by cases htests <;> rfl
    have hitemsEmpty : items.isEmpty = items'.isEmpty := by cases hitems <;> rfl
    rw [holds, holds, htestsEmpty, hitemsEmpty, any_items_congr htests hitems]
  | subset => rw [holds, holds, size_allowed_congr htests hitems, hsize, hcount]
  | superset => rw [holds, holds, size_allowed_congr htests hitems, hsize, hcount]
  | startsWith => rw [holds, holds, hsize, hcount, run_congr htests hitems]
  | endsWith => rw [holds, holds, hsize, hcount, hrun]
  | containsSequence =>
    rw [holds, holds, hsize, hcount]
    simp only [hrun]

end Quantifier

namespace Predicate

/-! ## Equality by members -/

theorem sameNegated_iff (negated others : List (Path × Predicate)) :
    sameNegated negated others = true ↔
      List.Forall₂ (fun f g => f.1 = g.1 ∧ f.2.same g.2 = true) negated others := by
  induction negated generalizing others with
  | nil => cases others <;> simp [sameNegated]
  | cons f rest ih =>
    cases others with
    | nil => simp [sameNegated]
    | cons g others =>
      rw [sameNegated, Bool.and_eq_true, Bool.and_eq_true, beq_iff_eq, ih, List.forall₂_cons]

theorem sameElements_iff (elements others : List Predicate) :
    sameElements elements others = true ↔
      List.Forall₂ (fun p q => p.same q = true) elements others := by
  induction elements generalizing others with
  | nil => cases others <;> simp [sameElements]
  | cons p rest ih =>
    cases others with
    | nil => simp [sameElements]
    | cons q others => rw [sameElements, Bool.and_eq_true, ih, List.forall₂_cons]

/-- Patterns of one source accept the same texts. -/
theorem pattern_eq_of_source {p q : Pattern} (h : p.source = q.source) : p = q := by
  obtain ⟨source, program, reads⟩ := p
  obtain ⟨source', program', reads'⟩ := q
  subst h
  rw [reads] at reads'
  cases reads'
  rfl

/-! ## Equal predicates -/

/-- Two predicates hold of equal trees alike. -/
def Agree (p q : Predicate) : Prop :=
  ∀ node other : Node, node.Equal other → p.holds node = q.holds other

variable {p q : Predicate}

section Related

variable {R : Node → Node → Prop} {x y : Option Node}

theorem satisfied_iff (hpq : ∀ node other, R node other → p.holds node = q.holds other)
    (h : Option.Rel R x y) :
    (∃ node, x = some node ∧ p.holds node = true) ↔ ∃ node, y = some node ∧ q.holds node = true := by
  cases h with
  | none => simp
  | some hxy => simp [hpq _ _ hxy]

theorem violated_iff (hpq : ∀ node other, R node other → p.holds node = q.holds other)
    (h : Option.Rel R x y) :
    (∀ node, x = some node → p.holds node = false) ↔ ∀ node, y = some node → q.holds node = false := by
  cases h with
  | none => simp
  | some hxy => simp [hpq _ _ hxy]

end Related

/-- No predicate tells trees apart that are of one kind and, in each step, lead to such trees again. -/
theorem holds_bisimilar {R : Node → Node → Prop} (hR : Node.Bisimulation R) (p : Predicate)
    {node other : Node} (h : R node other) : p.holds node = p.holds other := by
  induction p generalizing node other with
  | group fields negated ihf ihn =>
    rw [Bool.eq_iff_iff, holds_group, holds_group, (hR _ _ h).compound_iff]
    refine and_congr Iff.rfl (and_congr ?_ ?_)
    · exact forall₂_congr fun f hf => satisfied_iff (fun _ _ => ihf f hf) ((hR _ _ h).rel_step? _)
    · exact forall₂_congr fun f hf => violated_iff (fun _ _ => ihn f hf) (hR.rel_resolve? h _)
  | indexGroup fields ih =>
    rw [Bool.eq_iff_iff, holds_indexGroup, holds_indexGroup, (hR _ _ h).list_iff]
    refine and_congr Iff.rfl ?_
    exact forall₂_congr fun f hf => satisfied_iff (fun _ _ => ih f hf) ((hR _ _ h).rel_step? _)
  | number test =>
    cases hR _ _ h with
    | number hplace => exact (Interval.ofTest test).holds_congr hplace
    | _ => rfl
  | text value => cases hR _ _ h <;> rfl
  | pattern pattern => cases hR _ _ h <;> rfl
  | list quantifier elements ih =>
    cases hR _ _ h with
    | list hitems =>
      rw [holds, holds, tests_eq_map]
      refine quantifier.holds_congr (R := R) ?_ hitems
      rw [List.forall₂_map_left_iff, List.forall₂_map_right_iff]
      exact List.forall₂_same.mpr fun p hp _ _ hxy => ih p hp hxy
    | _ => rfl

/-- Negated fields are broken alike in trees that no step tells apart. -/
theorem noneHolds_bisimilar {R : Node → Node → Prop} (hR : Node.Bisimulation R)
    (negated : List (Path × Predicate)) {node other : Node} (h : R node other) :
    noneHolds negated node = noneHolds negated other := by
  rw [Bool.eq_iff_iff, noneHolds_iff, noneHolds_iff]
  exact forall₂_congr fun f _ =>
    violated_iff (fun _ _ => holds_bisimilar hR f.2) (hR.rel_resolve? h f.1)

/-- Fields of equal groups, found by their keys, hold of what equal trees have there alike. -/
theorem fields_congr {κ : Type} [DecidableEq κ] {fields others : List (κ × Predicate)}
    (hdistinct : Table.Distinct fields) (hdistinct' : Table.Distinct others)
    (hlength : fields.length = others.length)
    (hagree : ∀ f ∈ fields, ∃ q, Table.find? f.1 others = some q ∧ Agree f.2 q)
    {inside inside' : κ → Option Node}
    (hinside : ∀ key, Option.Rel Node.Equal (inside key) (inside' key)) :
    (∀ f ∈ fields, ∃ node, inside f.1 = some node ∧ f.2.holds node = true) ↔
      ∀ f ∈ others, ∃ node, inside' f.1 = some node ∧ f.2.holds node = true := by
  have hkeys := Table.mem_keys_of_length_le hdistinct (Nat.le_of_eq hlength.symm) fun f hf => by
    obtain ⟨q, hq, -⟩ := hagree f hf
    exact List.mem_map.mpr ⟨_, Table.mem_of_find? hq, rfl⟩
  obtain ⟨chosen, hchosen, hperm⟩ := Table.exists_perm hdistinct hdistinct' hagree hkeys
  calc (∀ f ∈ fields, ∃ node, inside f.1 = some node ∧ f.2.holds node = true)
      ↔ ∀ f ∈ chosen, ∃ node, inside' f.1 = some node ∧ f.2.holds node = true :=
        forall_mem_iff_of_forall₂ hchosen fun f _ g hfg =>
          satisfied_iff hfg.2 (hfg.1 ▸ hinside f.1)
    _ ↔ ∀ f ∈ others, ∃ node, inside' f.1 = some node ∧ f.2.holds node = true := by
        simp only [hperm.mem_iff]

theorem negated_congr {negated others : List (Path × Predicate)}
    (hagree : List.Forall₂ (fun f g => f.1 = g.1 ∧ Agree f.2 g.2) negated others) {node other : Node}
    (h : node.Equal other) :
    (∀ f ∈ negated, ∀ target, node.resolve? f.1 = some target → f.2.holds target = false) ↔
      ∀ f ∈ others, ∀ target, other.resolve? f.1 = some target → f.2.holds target = false :=
  forall_mem_iff_of_forall₂ hagree fun f _ _ hfg =>
    violated_iff hfg.2 (hfg.1 ▸ Node.bisimulation_equal.rel_resolve? h f.1)

/-- A predicate agrees with whatever equals it. -/
def Congruent (p : Predicate) : Prop :=
  ∀ q : Predicate, p.WellFormed → q.WellFormed → p.same q = true → Agree p q

section Congruent

variable {κ : Type} [DecidableEq κ] {fields others : List (κ × Predicate)}
  {negated : List (Path × Predicate)} {elements : List Predicate}

/-- The fields of equal groups agree, if each of them is congruent. -/
theorem fields_agree (ih : ∀ f ∈ fields, Congruent f.2) (hfields : ∀ f ∈ fields, f.2.WellFormed)
    (hothers : ∀ f ∈ others, f.2.WellFormed)
    (hsame : ∀ f ∈ fields, ∃ q, Table.find? f.1 others = some q ∧ f.2.same q = true) :
    ∀ f ∈ fields, ∃ q, Table.find? f.1 others = some q ∧ Agree f.2 q := by
  intro f hf
  obtain ⟨q, hfind, heq⟩ := hsame f hf
  have hq := hothers _ (Table.mem_of_find? hfind)
  exact ⟨q, hfind, ih f hf q (hfields f hf) hq heq⟩

theorem congruent_group {fields : List (String × Predicate)} (ihf : ∀ f ∈ fields, Congruent f.2)
    (ihn : ∀ f ∈ negated, Congruent f.2) : Congruent (.group fields negated) := by
  intro q hp hq hsame node other h
  cases q with
  | group fields' negated' =>
    obtain ⟨hdistinct, hfields, hnegated⟩ := (wellFormed_group _ _).mp hp
    obtain ⟨hdistinct', hfields', hnegated'⟩ := (wellFormed_group _ _).mp hq
    rw [same, Bool.and_eq_true, Bool.and_eq_true, beq_iff_eq, sameFields_iff, sameNegated_iff] at hsame
    obtain ⟨⟨hlength, hsameFields⟩, hsameNegated⟩ := hsame
    have hagree := fields_agree ihf hfields hfields' hsameFields
    have hagree' : List.Forall₂ (fun f g => f.1 = g.1 ∧ Agree f.2 g.2) negated negated' :=
      forall₂_imp_mem (fun f hf g hg hfg =>
        ⟨hfg.1, ihn f hf g.2 (hnegated f hf) (hnegated' g hg) hfg.2⟩) hsameNegated
    have hlevel := Node.bisimulation_equal node other h
    rw [Bool.eq_iff_iff, holds_group, holds_group, hlevel.compound_iff,
      fields_congr hdistinct hdistinct' hlength hagree fun key => hlevel.rel_step? (.key key),
      negated_congr hagree' h]
  | _ => simp [same] at hsame

theorem congruent_indexGroup {fields : List (Int × Predicate)} (ih : ∀ f ∈ fields, Congruent f.2) :
    Congruent (.indexGroup fields) := by
  intro q hp hq hsame node other h
  cases q with
  | indexGroup fields' =>
    obtain ⟨hdistinct, hfields⟩ := (wellFormed_indexGroup _).mp hp
    obtain ⟨hdistinct', hfields'⟩ := (wellFormed_indexGroup _).mp hq
    rw [same, Bool.and_eq_true, beq_iff_eq, sameItems_iff] at hsame
    have hagree := fields_agree ih hfields hfields' hsame.2
    have hlevel := Node.bisimulation_equal node other h
    rw [Bool.eq_iff_iff, holds_indexGroup, holds_indexGroup, hlevel.list_iff,
      fields_congr hdistinct hdistinct' hsame.1 hagree fun position =>
        hlevel.rel_step? (.index position)]
  | _ => simp [same] at hsame

theorem congruent_list {quantifier : Quantifier} (ih : ∀ p ∈ elements, Congruent p) :
    Congruent (.list quantifier elements) := by
  intro q hp hq hsame node other h
  cases q with
  | list quantifier' elements' =>
    rw [wellFormed_list] at hp hq
    rw [same, Bool.and_eq_true, beq_iff_eq, sameElements_iff] at hsame
    obtain ⟨rfl, hsame⟩ := hsame
    have hagree : List.Forall₂ Agree elements elements' :=
      forall₂_imp_mem (fun p hpmem q hqmem => ih p hpmem q (hp p hpmem) (hq q hqmem)) hsame
    have heq := h.same
    cases node <;> cases other <;> first | cases heq | rfl | skip
    rw [holds, holds, tests_eq_map, tests_eq_map]
    refine quantifier.holds_congr (R := Node.Equal) ?_ h.list
    rw [List.forall₂_map_left_iff, List.forall₂_map_right_iff]
    exact hagree
  | _ => simp [same] at hsame

end Congruent

/-- Equal predicates hold of equal trees alike. -/
theorem agree_of_same (p : Predicate) : Congruent p := by
  induction p with
  | group fields negated ihf ihn => exact congruent_group ihf ihn
  | indexGroup fields ih => exact congruent_indexGroup ih
  | list quantifier elements ih => exact congruent_list ih
  | number test =>
    intro q _ _ hsame node other h
    cases q with
    | number test' =>
      rw [same] at hsame
      have heq := h.same
      cases node <;> cases other <;> first | cases heq | rfl | skip
      exact Interval.holds_ofTest_congr hsame heq
    | _ => simp [same] at hsame
  | text value =>
    intro q _ _ hsame node other h
    cases q with
    | text value' =>
      rw [same] at hsame
      have heq := h.same
      cases eq_of_beq hsame
      cases node <;> cases other <;> first | cases heq | rfl | skip
      cases eq_of_beq heq
      rfl
    | _ => simp [same] at hsame
  | pattern pattern =>
    intro q _ _ hsame node other h
    cases q with
    | pattern pattern' =>
      rw [same] at hsame
      have heq := h.same
      cases pattern_eq_of_source (eq_of_beq hsame)
      cases node <;> cases other <;> first | cases heq | rfl | skip
      cases eq_of_beq heq
      rfl
    | _ => simp [same] at hsame

/-! ## What rearranging keeps -/

/-- The fields of a predicate have keys of their own. -/
def DistinctKeys : Predicate → Prop
  | .group fields _ => Table.Distinct fields
  | .indexGroup fields => Table.Distinct fields
  | _ => True

theorem wellFormed_iff_everywhere (p : Predicate) : p.WellFormed ↔ Everywhere DistinctKeys p := by
  induction p with
  | group fields negated ihf ihn =>
    rw [wellFormed_group, everywhere_group]
    exact and_congr Iff.rfl (and_congr (forall₂_congr ihf) (forall₂_congr ihn))
  | indexGroup fields ih =>
    rw [wellFormed_indexGroup, everywhere_indexGroup]
    exact and_congr Iff.rfl (forall₂_congr ih)
  | list quantifier elements ih =>
    have hkeys : DistinctKeys (.list quantifier elements) := trivial
    rw [wellFormed_list, everywhere_list, and_iff_right hkeys]
    exact forall₂_congr ih
  | number | text | pattern =>
    rw [everywhere_leaf rfl]
    rfl

/-- What the order of fields has no part in holds everywhere inside a rearranged predicate. -/
theorem Rearranged.everywhere {P : Predicate → Prop} (hP : ∀ p q, Rearranged p q → P p → P q)
    (h : Rearranged p q) (hp : Everywhere P p) : Everywhere P q := by
  induction h with
  | refl => exact hp
  | trans _ _ ih ih' => exact ih' (ih hp)
  | fields negated hperm =>
    rw [everywhere_group] at hp ⊢
    refine ⟨hP _ _ (.fields negated hperm) hp.1, ?_, hp.2.2⟩
    simpa only [hperm.mem_iff] using hp.2.1
  | negated fields hperm =>
    rw [everywhere_group] at hp ⊢
    refine ⟨hP _ _ (.negated fields hperm) hp.1, hp.2.1, ?_⟩
    simpa only [hperm.mem_iff] using hp.2.2
  | items hperm =>
    rw [everywhere_indexGroup] at hp ⊢
    refine ⟨hP _ _ (.items hperm) hp.1, ?_⟩
    simpa only [hperm.mem_iff] using hp.2
  | inField before after key negated hinner ih =>
    rw [everywhere_group] at hp ⊢
    rw [List.forall_mem_append, List.forall_mem_cons] at hp ⊢
    obtain ⟨here, ⟨hbefore, hfield, hafter⟩, hnegated⟩ := hp
    exact ⟨hP _ _ (.inField before after key negated hinner) here,
      ⟨hbefore, ih hfield, hafter⟩, hnegated⟩
  | inNegated fields before after path hinner ih =>
    rw [everywhere_group] at hp ⊢
    rw [List.forall_mem_append, List.forall_mem_cons] at hp ⊢
    obtain ⟨here, hfields, hbefore, hfield, hafter⟩ := hp
    exact ⟨hP _ _ (.inNegated fields before after path hinner) here, hfields,
      hbefore, ih hfield, hafter⟩
  | inItem before after position hinner ih =>
    rw [everywhere_indexGroup] at hp ⊢
    rw [List.forall_mem_append, List.forall_mem_cons] at hp ⊢
    obtain ⟨here, hbefore, hfield, hafter⟩ := hp
    exact ⟨hP _ _ (.inItem before after position hinner) here, hbefore, ih hfield, hafter⟩
  | inElement quantifier before after hinner ih =>
    rw [everywhere_list] at hp ⊢
    rw [List.forall_mem_append, List.forall_mem_cons] at hp ⊢
    obtain ⟨here, hbefore, helement, hafter⟩ := hp
    exact ⟨hP _ _ (.inElement quantifier before after hinner) here, hbefore, ih helement, hafter⟩

theorem Rearranged.distinctKeys (h : Rearranged p q) (hp : DistinctKeys p) : DistinctKeys q := by
  induction h with
  | refl => exact hp
  | trans _ _ ih ih' => exact ih' (ih hp)
  | fields negated hperm => exact (hperm.map Prod.fst).nodup_iff.mp hp
  | negated => exact hp
  | items hperm => exact (hperm.map Prod.fst).nodup_iff.mp hp
  | inField before after key negated =>
    unfold DistinctKeys Table.Distinct at hp ⊢
    simpa only [List.map_append, List.map_cons] using hp
  | inNegated => exact hp
  | inItem before after position =>
    unfold DistinctKeys Table.Distinct at hp ⊢
    simpa only [List.map_append, List.map_cons] using hp
  | inElement => exact hp

/-! ## The order of fields -/

/-- The order of fields and of negated fields does not matter. -/
theorem holds_rearranged (h : Rearranged p q) (node : Node) : p.holds node = q.holds node := by
  induction h generalizing node with
  | refl => rfl
  | trans _ _ ih ih' => rw [ih, ih']
  | fields negated hperm =>
    rw [Bool.eq_iff_iff, holds_group, holds_group]
    simp only [hperm.mem_iff]
  | negated fields hperm =>
    rw [Bool.eq_iff_iff, holds_group, holds_group]
    simp only [hperm.mem_iff]
  | items hperm =>
    rw [Bool.eq_iff_iff, holds_indexGroup, holds_indexGroup]
    simp only [hperm.mem_iff]
  | inField before after key negated _ ih =>
    rw [Bool.eq_iff_iff, holds_group, holds_group]
    simp only [List.forall_mem_append, List.forall_mem_cons, ih]
  | inNegated fields before after path _ ih =>
    rw [Bool.eq_iff_iff, holds_group, holds_group]
    simp only [List.forall_mem_append, List.forall_mem_cons, ih]
  | inItem before after position _ ih =>
    rw [Bool.eq_iff_iff, holds_indexGroup, holds_indexGroup]
    simp only [List.forall_mem_append, List.forall_mem_cons, ih]
  | @inElement quantifier before after p q _ ih =>
    have htests : (before ++ p :: after).map holds = (before ++ q :: after).map holds := by
      rw [List.map_append, List.map_append, List.map_cons, List.map_cons, funext ih]
    rw [Bool.eq_iff_iff, holds_list, holds_list, htests]

/-- Equal predicates evaluate alike on equal trees, and the order of the negated fields of a group
anywhere inside a predicate does not matter. -/
theorem evaluate_congr :
    (∀ (p q : Predicate) (node other : Node), p.WellFormed → q.WellFormed → node.WellFormed →
      other.WellFormed → p.same q = true → node.same other = true →
      p.evaluate node = q.evaluate other) ∧
    ∀ p q : Predicate, Rearranged p q → ∀ node, p.evaluate node = q.evaluate node := by
  constructor
  · intro p q node other hp hq hnode hother hsame heq
    rw [evaluate_eq, evaluate_eq, agree_of_same p q hp hq hsame node other ⟨hnode, hother, heq⟩]
  · intro p q h node
    rw [evaluate_eq, evaluate_eq, holds_rearranged h]

/-- Two, as an integer. -/
def twoWhole : Quantity :=
  ⟨.int, .int 2, .int 2, Width.coerce_eq_ok.mpr ⟨by decide +kernel, rfl⟩⟩

/-- Two, as a double. -/
def twoDouble : Quantity :=
  ⟨.double, .double (Double.ofInt 2), .int 2, Width.coerce_eq_ok.mpr ⟨by decide +kernel, rfl⟩⟩

/-- A map that weighs at least a single precision number, is not rusty and has no oak lid. -/
def weighed (bound : Number) : Predicate :=
  .group [("id", .text "map"), ("mass", .number (.compare .atLeast bound (some .float)))]
    [([.key "lock"], .text "rusty"), ([.key "lid"], .text "oak")]

/-- The same with the fields in another order. -/
def weighedFirst (bound : Number) : Predicate :=
  .group [("mass", .number (.compare .atLeast bound (some .float))), ("id", .text "map")]
    [([.key "lock"], .text "rusty"), ([.key "lid"], .text "oak")]

theorem evaluate_congr_weighed :
    (weighed (.int 2)).evaluate (.compound [("id", .text "map"), ("mass", .number twoWhole)]) =
      (weighedFirst (.double (Double.ofInt 2))).evaluate
        (.compound [("mass", .number twoDouble), ("id", .text "map")]) ∧
    (weighed (.int 2)).evaluate (.compound []) =
      (Predicate.group [("id", .text "map"), ("mass", .number (.compare .atLeast (.int 2) (some .float)))]
        [([.key "lid"], .text "oak"), ([.key "lock"], .text "rusty")]).evaluate (.compound []) := by
  have htwo : (Number.int 2).same (.double (Double.ofInt 2)) = true := by decide +kernel
  constructor
  · refine evaluate_congr.1 _ _ _ _ ?_ ?_ ?_ ?_ ?_ ?_
    · simp [weighed, WellFormed, FieldsWellFormed, NegatedWellFormed, Table.Distinct]
    · simp [weighedFirst, WellFormed, FieldsWellFormed, NegatedWellFormed, Table.Distinct]
    · simp [Node.WellFormed, Node.EntriesWellFormed, Table.Distinct]
    · simp [Node.WellFormed, Node.EntriesWellFormed, Table.Distinct]
    · simp [weighed, weighedFirst, same, sameFields, sameNegated, Table.find?, NumberTest.same, htwo]
    · simp [Node.same, Node.sameEntries, Table.find?, Quantity.same, twoWhole, twoDouble, htwo]
  · exact evaluate_congr.2 _ _ (.negated _ (List.Perm.swap _ _ _)) _

end Predicate

end TreePredicate
