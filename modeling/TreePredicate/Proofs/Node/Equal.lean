import TreePredicate.Proofs.Value

/-!
# Equality of trees is an equivalence

On trees that name no node twice equality is reflexive and transitive, and it is kept by making a
compound or a list of equal trees. Only this and the order of names make two trees differ here.

* `Equal.refl`, `Equal.trans` : equality of trees is an equivalence;
* `Equal.compound_congr`, `Equal.list_congr` : compounds and lists of equal trees;
* `Equal.compound_perm` : a compound with its entries in another order.
-/

set_option autoImplicit false

namespace TreePredicate

theorem Number.same_trans {a b c : Number} (hab : a.same b = true) (hbc : b.same c = true) :
    a.same c = true := by
  have hplace := point?_eq_of_same hbc
  unfold same at hab ⊢
  rwa [← hplace]

namespace Node

variable {node other : Node} {entries others : List (String × Node)} {items items' : List Node}

theorem Equal.refl (h : node.WellFormed) : Equal node node := ⟨h, h, Alike.same rfl h⟩

theorem same_trans {third : Node} (h : node.same other = true) (h' : other.same third = true) :
    node.same third = true := by
  induction node generalizing other third with
  | compound entries ih =>
    cases other <;> first | cases h | skip
    cases third <;> first | cases h' | skip
    rename_i others thirds
    rw [Node.same, Bool.and_eq_true, beq_iff_eq, sameEntries_iff] at h h' ⊢
    refine ⟨h.1.trans h'.1, fun e he => ?_⟩
    obtain ⟨inner, hinner, heq⟩ := h.2 e he
    obtain ⟨last, hlast, heq'⟩ := h'.2 _ (Table.mem_of_find? hinner)
    exact ⟨last, hlast, ih e he heq heq'⟩
  | list items ih =>
    cases other <;> first | cases h | skip
    cases third <;> first | cases h' | skip
    rename_i others thirds
    rw [Node.same, sameItems_iff] at h h' ⊢
    induction h generalizing thirds with
    | nil => exact h'
    | cons hxy _ ihrest =>
      cases h' with
      | cons hyz hrest =>
        rw [List.forall_mem_cons] at ih
        exact .cons (ih.1 hxy hyz) (ihrest ih.2 _ hrest)
  | number quantity =>
    cases other <;> first | cases h | skip
    cases third <;> first | cases h' | skip
    exact Number.same_trans h h'
  | text value =>
    cases other <;> first | cases h | skip
    cases third <;> first | cases h' | skip
    cases eq_of_beq h
    exact h'

theorem Equal.trans {third : Node} (h : Equal node other) (h' : Equal other third) :
    Equal node third :=
  ⟨h.left, h'.right, same_trans h.same h'.same⟩

/-- Compounds of equal trees under the same names. -/
theorem Equal.compound_congr (hdistinct : Table.Distinct entries)
    (h : List.Forall₂ (fun e f => e.1 = f.1 ∧ Equal e.2 f.2) entries others) :
    Equal (.compound entries) (.compound others) := by
  have hdistinct' : Table.Distinct others := by
    unfold Table.Distinct
    rwa [← Table.keys_eq_of_forall₂ (fun _ _ hef => hef.1) h]
  refine ⟨⟨hdistinct, ?_⟩, ⟨hdistinct', ?_⟩, ?_⟩
  · exact (entriesWellFormed_iff _).mpr (forall_mem_right h.flip fun _ _ _ hef => hef.2.left)
  · exact (entriesWellFormed_iff _).mpr (forall_mem_right h fun _ _ _ hef => hef.2.right)
  · rw [Node.same, Bool.and_eq_true, beq_iff_eq, sameEntries_iff]
    refine ⟨h.length_eq, forall_mem_right h.flip ?_⟩
    intro f hf e hef
    exact ⟨f.2, hef.1 ▸ Table.find?_eq_of_mem hdistinct' hf, hef.2.same⟩

/-- A compound with its entries in another order. -/
theorem Equal.compound_perm (hwell : (Node.compound entries).WellFormed)
    (h : entries.Perm others) : Equal (.compound entries) (.compound others) := by
  obtain ⟨hdistinct, hentries⟩ := hwell
  have hdistinct' : Table.Distinct others := (h.map Prod.fst).nodup_iff.mp hdistinct
  rw [entriesWellFormed_iff] at hentries
  refine ⟨⟨hdistinct, (entriesWellFormed_iff _).mpr hentries⟩, ⟨hdistinct', ?_⟩, ?_⟩
  · exact (entriesWellFormed_iff _).mpr fun e he => hentries e (h.mem_iff.mpr he)
  · rw [Node.same, Bool.and_eq_true, beq_iff_eq, sameEntries_iff]
    refine ⟨h.length_eq, fun e he => ⟨e.2, ?_, (Equal.refl (hentries e he)).same⟩⟩
    exact Table.find?_eq_of_mem hdistinct' (h.mem_iff.mp he)

/-- Lists of equal trees. -/
theorem Equal.list_congr (h : List.Forall₂ Equal items items') :
    Equal (.list items) (.list items') where
  left := (itemsWellFormed_iff _).mpr (forall_mem_right h.flip fun _ _ _ hxy => hxy.left)
  right := (itemsWellFormed_iff _).mpr (forall_mem_right h fun _ _ _ hxy => hxy.right)
  same := by
    rw [Node.same, sameItems_iff]
    exact h.imp fun _ _ hxy => hxy.same

end Node

end TreePredicate
