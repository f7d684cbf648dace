import Mathlib.Algebra.BigOperators.Group.List.Basic
import Mathlib.Algebra.Order.BigOperators.Group.Finset
import Mathlib.Algebra.Ring.Int.Defs
import Mathlib.Data.Fintype.BigOperators
import Mathlib.Data.List.Perm.Basic
import TreePredicate.Assignment

/-!
# The assignments found are cheapest

* `Assignment.Full` : as many pairs as there is room for, in distinct rows and distinct columns;
* `Certified.total_le` : labels that certify an assignment bound the total of every full one from
  below (weak duality);
* `search_some`, `search_le` : trying all finds a cheapest assignment;
* `full_rows`, `full_columns` : distinct columns for all rows, or distinct rows for all columns;
* `Cheapest`, `solve_cheapest` : what `solve` finds is full, and no full assignment is cheaper.
-/

set_option autoImplicit false

namespace TreePredicate.Assignment

variable {rows columns : Nat}

/-- As many pairs as there is room for, in distinct rows and distinct columns. -/
structure Full (pairs : Assignment rows columns) : Prop where
  rows_nodup : (pairs.map Prod.fst).Nodup
  columns_nodup : (pairs.map Prod.snd).Nodup
  length_eq : pairs.length = min rows columns

/-! ## Totals -/

theorem total_eq_sum (cost : Grid rows columns Int) (pairs : Assignment rows columns) :
    total cost pairs = (pairs.map fun p => cost p.1 p.2).sum := by
  induction pairs with
  | nil => rfl
  | cons p rest ih =>
    rw [List.map_cons, List.sum_cons, ← ih]
    rfl

theorem total_cons (cost : Grid rows columns Int) (i : Fin rows) (j : Fin columns)
    (pairs : Assignment rows columns) :
    total cost ((i, j) :: pairs) = cost i j + total cost pairs := rfl

theorem total_perm (cost : Grid rows columns Int) {p q : Assignment rows columns}
    (h : p.Perm q) : total cost p = total cost q := by
  rw [total_eq_sum, total_eq_sum]
  exact (h.map _).sum_eq

theorem total_transpose (cost : Grid rows columns Int) (pairs : Assignment columns rows) :
    total cost (pairs.map Prod.swap) = total cost.transpose pairs := by
  rw [total_eq_sum, total_eq_sum, List.map_map]
  rfl

theorem Full.swap {pairs : Assignment rows columns} (h : Full pairs) :
    Full (pairs.map Prod.swap : Assignment columns rows) := by
  refine ⟨?_, ?_, ?_⟩
  · rw [List.map_map]
    exact h.columns_nodup
  · rw [List.map_map]
    exact h.rows_nodup
  · rw [List.length_map, h.length_eq, Nat.min_comm]

theorem Full.rows_perm {pairs : Assignment rows columns} (h : Full pairs)
    (hle : rows ≤ columns) : (pairs.map Prod.fst).Perm (List.finRange rows) := by
  refine (List.subperm_of_subset h.rows_nodup fun i _ => List.mem_finRange i).perm_of_length_le ?_
  rw [List.length_finRange, List.length_map, h.length_eq]
  omega

theorem map_fst_eq {is : List (Fin rows)} {q : Assignment rows columns}
    (h : List.Forall₂ (fun i p => p.1 = i) is q) : q.map Prod.fst = is := by
  induction h with
  | nil => rfl
  | cons hp _ ih => rw [List.map_cons, hp, ih]

/-- A full assignment of a wide grid can be listed by ascending row. -/
theorem Full.exists_sorted {pairs : Assignment rows columns} (h : Full pairs)
    (hle : rows ≤ columns) :
    ∃ q : Assignment rows columns, q.Perm pairs ∧ q.map Prod.fst = List.finRange rows := by
  have hrel : List.Forall₂ (fun i (p : Fin rows × Fin columns) => p.1 = i)
      (pairs.map Prod.fst) pairs := by
    rw [List.forall₂_map_left_iff]
    exact List.forall₂_same.mpr fun _ _ => rfl
  obtain ⟨q, hq, hperm⟩ := List.perm_comp_forall₂ (h.rows_perm hle).symm hrel
  exact ⟨q, hperm, map_fst_eq hq⟩

/-! ## Certificates -/

theorem sum_labels_le {column : Fin columns → Int} (hneg : ∀ j, column j ≤ 0)
    {js : List (Fin columns)} (hnodup : js.Nodup) :
    ∑ j, column j ≤ (js.map column).sum := by
  rw [← List.sum_toFinset column hnodup, ← Finset.sum_add_sum_compl js.toFinset]
  exact add_le_of_nonpos_right (Finset.sum_nonpos fun j _ => hneg j)

theorem sum_labels_eq {column : Fin columns → Int} {js : List (Fin columns)}
    (hnodup : js.Nodup) (hfree : ∀ j, j ∉ js → column j = 0) :
    ∑ j, column j = (js.map column).sum := by
  rw [← List.sum_toFinset column hnodup, ← Finset.sum_add_sum_compl js.toFinset]
  have hzero := Finset.sum_eq_zero fun j (h : j ∈ js.toFinsetᶜ) =>
    hfree j fun hj => Finset.mem_compl.mp h (List.mem_toFinset.mpr hj)
  rw [hzero, add_zero]

theorem sum_pair_labels (row : Fin rows → Int) (column : Fin columns → Int)
    (pairs : Assignment rows columns) :
    (pairs.map fun p => row p.1 + column p.2).sum =
      ((pairs.map Prod.fst).map row).sum + ((pairs.map Prod.snd).map column).sum := by
  rw [List.map_map, List.map_map]
  exact List.sum_map_add

/-- Labels that certify an assignment bound every full one from below. -/
theorem Certified.total_le {cost : Grid rows columns Int} {pairs q : Assignment rows columns}
    {row : Fin rows → Int} {column : Fin columns → Int}
    (h : Certified cost pairs row column) (hq : Full q) (hle : rows ≤ columns) :
    total cost pairs ≤ total cost q := by
  have hrows : ((q.map Prod.fst).map row).sum = ((pairs.map Prod.fst).map row).sum := by
    rw [h.rows_eq]
    exact ((hq.rows_perm hle).map row).sum_eq
  calc
    total cost pairs = (pairs.map fun p => row p.1 + column p.2).sum := by
      rw [total_eq_sum]
      exact congrArg List.sum (List.map_congr_left fun p hp => (h.tight p hp).symm)
    _ = ((pairs.map Prod.fst).map row).sum + ∑ j, column j := by
      rw [sum_pair_labels, sum_labels_eq h.columns_nodup h.free]
    _ ≤ ((q.map Prod.fst).map row).sum + ((q.map Prod.snd).map column).sum := by
      rw [hrows]
      exact Int.add_le_add_left (sum_labels_le h.nonpos hq.columns_nodup) _
    _ = (q.map fun p => row p.1 + column p.2).sum := (sum_pair_labels row column q).symm
    _ ≤ total cost q := by
      rw [total_eq_sum]
      exact List.sum_le_sum fun p _ => h.below p.1 p.2

/-! ## Trying all -/

theorem cheaper_eq {α : Type} (a b : Option (Int × α)) : cheaper a b = a ∨ cheaper a b = b := by
  unfold cheaper
  split
  · split <;> simp
  · simp
  · simp

theorem cheaper_le {α : Type} {a b : Option (Int × α)} {c : Int × α}
    (h : a = some c ∨ b = some c) : ∃ best, cheaper a b = some best ∧ best.1 ≤ c.1 := by
  unfold cheaper
  split
  · next x p y q =>
    rcases h with h | h <;> cases h
    · by_cases hlt : y < x
      · exact ⟨(y, q), if_pos hlt, le_of_lt hlt⟩
      · exact ⟨(x, p), if_neg hlt, le_refl x⟩
    · by_cases hlt : y < x
      · exact ⟨(y, q), if_pos hlt, le_refl y⟩
      · exact ⟨(x, p), if_neg hlt, le_of_not_gt hlt⟩
  · rcases h with h | h
    · cases h
    · exact ⟨c, h, le_refl _⟩
  · rcases h with h | h
    · exact ⟨c, h, le_refl _⟩
    · cases h

/-- The cheapest of some candidates is one of them. -/
theorem mem_of_foldl_cheaper {α : Type} {found : List (Option (Int × α))}
    {first : Option (Int × α)} {best : Int × α} (h : found.foldl cheaper first = some best) :
    first = some best ∨ some best ∈ found := by
  induction found generalizing first with
  | nil => exact .inl h
  | cons next rest ih =>
    rw [List.foldl_cons] at h
    rcases ih h with e | hmem
    · rcases cheaper_eq first next with hc | hc
      · exact .inl (hc ▸ e)
      · exact .inr (List.mem_cons.mpr (.inl (e.symm.trans hc)))
    · exact .inr (List.mem_cons_of_mem _ hmem)

/-- No candidate is cheaper than the cheapest. -/
theorem foldl_cheaper_le {α : Type} {found : List (Option (Int × α))}
    {first : Option (Int × α)} {c : Int × α} (h : first = some c ∨ some c ∈ found) :
    ∃ best, found.foldl cheaper first = some best ∧ best.1 ≤ c.1 := by
  induction found generalizing first c with
  | nil => exact ⟨c, h.resolve_right List.not_mem_nil, le_refl _⟩
  | cons next rest ih =>
    rw [List.foldl_cons]
    have hhead : ∀ d : Int × α, first = some d ∨ next = some d →
        ∃ best, rest.foldl cheaper (cheaper first next) = some best ∧ best.1 ≤ d.1 := by
      intro d hd
      obtain ⟨b, hb, hbd⟩ := cheaper_le hd
      obtain ⟨best, hbest, hle⟩ := ih (.inl hb)
      exact ⟨best, hbest, le_trans hle hbd⟩
    rcases h with h | h
    · exact hhead c (.inl h)
    · rcases List.mem_cons.mp h with h | h
      · exact hhead c (.inr h.symm)
      · exact ih (.inr h)

/-- What a search finds pairs the rows in order with distinct free columns, and costs what it says. -/
theorem search_some (cost : Grid rows columns Int) (is : List (Fin rows))
    (free : List (Fin columns)) (hfree : free.Nodup) {sum : Int} {pairs : Assignment rows columns}
    (h : search cost is free = some (sum, pairs)) :
    pairs.map Prod.fst = is ∧ (pairs.map Prod.snd).Nodup ∧ pairs.map Prod.snd ⊆ free ∧
      total cost pairs = sum := by
  induction is generalizing free sum pairs with
  | nil =>
    rw [search] at h
    cases h
    simp [total]
  | cons i others ih =>
    rw [search] at h
    rcases mem_of_foldl_cheaper h with h | h
    · cases h
    · obtain ⟨j, hj, h⟩ := List.mem_map.mp h
      obtain ⟨⟨rest, chosen⟩, hsearch, h⟩ := Option.map_eq_some_iff.mp h
      cases h
      obtain ⟨hfst, hnodup, hsub, htotal⟩ := ih (free.erase j) (hfree.erase j) hsearch
      refine ⟨by rw [List.map_cons, hfst], ?_, ?_, by rw [total_cons, htotal]⟩
      · rw [List.map_cons, List.nodup_cons]
        exact ⟨fun hmem => hfree.not_mem_erase (hsub hmem), hnodup⟩
      · rw [List.map_cons, List.cons_subset]
        exact ⟨hj, fun k hk => List.mem_of_mem_erase (hsub hk)⟩

/-- A search misses no cheaper way to pair the rows with distinct free columns. -/
theorem search_le (cost : Grid rows columns Int) (q : Assignment rows columns)
    (free : List (Fin columns)) (hnodup : (q.map Prod.snd).Nodup) (hsub : q.map Prod.snd ⊆ free) :
    ∃ best, search cost (q.map Prod.fst) free = some best ∧ best.1 ≤ total cost q := by
  induction q generalizing free with
  | nil => exact ⟨_, rfl, le_refl _⟩
  | cons p rest ih =>
    obtain ⟨i, j⟩ := p
    rw [List.map_cons, List.nodup_cons] at hnodup
    rw [List.map_cons, List.cons_subset] at hsub
    have hrest : rest.map Prod.snd ⊆ free.erase j := by
      intro k hk
      refine (List.mem_erase_of_ne ?_).mpr (hsub.2 hk)
      rintro rfl
      exact hnodup.1 hk
    obtain ⟨⟨sum, pairs⟩, hbest, hle⟩ := ih (free.erase j) hnodup.2 hrest
    rw [List.map_cons, search]
    have hmem : some (cost i j + sum, (i, j) :: pairs) ∈ free.map fun j =>
        (search cost (rest.map Prod.fst) (free.erase j)).map fun found =>
          (cost i j + found.1, (i, j) :: found.2) := by
      refine List.mem_map.mpr ⟨j, hsub.1, ?_⟩
      rw [hbest]
      rfl
    obtain ⟨best, hfound, hb⟩ := foldl_cheaper_le (.inr hmem : none = some _ ∨ _)
    refine ⟨best, hfound, le_trans hb ?_⟩
    rw [total_cons]
    exact Int.add_le_add_left hle _

/-! ## Cheapest assignments -/

/-- Distinct columns, one for each row. -/
theorem full_rows {f : Fin rows → Fin columns} (hf : Function.Injective f) :
    Full ((List.finRange rows).map fun i => (i, f i)) := by
  have hle : rows ≤ columns := by simpa using Fintype.card_le_of_injective f hf
  refine ⟨?_, ?_, ?_⟩
  · rw [List.map_map]
    exact (List.map_id _).symm ▸ List.nodup_finRange rows
  · rw [List.map_map]
    exact (List.nodup_finRange rows).map hf
  · rw [List.length_map, List.length_finRange, Nat.min_eq_left hle]

/-- Distinct rows, one for each column. -/
theorem full_columns {g : Fin columns → Fin rows} (hg : Function.Injective g) :
    Full ((List.finRange columns).map fun j => (g j, j)) := by
  have hswap := (full_rows hg).swap
  rw [List.map_map] at hswap
  exact hswap

/-- The first rows and the first columns, paired in order. -/
theorem full_diagonal (hle : rows ≤ columns) :
    Full ((List.finRange rows).map fun i => (i, Fin.castLE hle i)) :=
  full_rows (Fin.castLE_injective hle)

/-- What a search over all rows and columns finds is full, and no full assignment is cheaper. -/
theorem search_all (cost : Grid rows columns Int) (hle : rows ≤ columns) :
    ∃ best, search cost (List.finRange rows) (List.finRange columns) = some best ∧
      best.2.map Prod.fst = List.finRange rows ∧ (best.2.map Prod.snd).Nodup ∧
      ∀ q, Full q → total cost best.2 ≤ total cost q := by
  have hbelow : ∀ q, Full q → ∃ best,
      search cost (List.finRange rows) (List.finRange columns) = some best ∧
        best.1 ≤ total cost q := by
    intro q hq
    obtain ⟨sorted, hperm, hfst⟩ := hq.exists_sorted hle
    rw [← hfst, ← total_perm cost hperm]
    exact search_le cost sorted _ ((hperm.map Prod.snd).nodup_iff.mpr hq.columns_nodup)
      fun j _ => List.mem_finRange j
  obtain ⟨best, hbest, -⟩ := hbelow _ (full_diagonal hle)
  obtain ⟨hfst, hsnd, -, htotal⟩ := search_some cost _ _ (List.nodup_finRange columns) hbest
  refine ⟨best, hbest, hfst, hsnd, fun q hq => ?_⟩
  obtain ⟨other, hother, hle'⟩ := hbelow q hq
  rw [hbest] at hother
  cases hother
  exact htotal ▸ hle'

theorem full_of_rows_eq {pairs : Assignment rows columns} (hle : rows ≤ columns)
    (hfst : pairs.map Prod.fst = List.finRange rows) (hsnd : (pairs.map Prod.snd).Nodup) :
    Full pairs := by
  refine ⟨hfst ▸ List.nodup_finRange rows, hsnd, ?_⟩
  have := congrArg List.length hfst
  rw [List.length_map, List.length_finRange] at this
  omega

/-- All rows of a wide grid are paired, by ascending row, and no full assignment is cheaper. -/
theorem cheapest_spec (cost : Grid rows columns Int) (hle : rows ≤ columns) :
    (cheapest cost).map Prod.fst = List.finRange rows ∧ ((cheapest cost).map Prod.snd).Nodup ∧
      ∀ q, Full q → total cost (cheapest cost) ≤ total cost q := by
  unfold cheapest
  dsimp only
  split
  · next h =>
    have hc := isCertified_iff.mp h
    exact ⟨hc.rows_eq, hc.columns_nodup, fun q hq => hc.total_le hq hle⟩
  · obtain ⟨best, hbest, hfst, hsnd, hmin⟩ := search_all cost hle
    rw [hbest]
    exact ⟨hfst, hsnd, hmin⟩

/-! ## Grids of any shape -/

/-- The pairs of an assignment by ascending second member, exchanged. -/
theorem sorted_perm {pairs : Assignment columns rows} (hnodup : (pairs.map Prod.snd).Nodup) :
    ((List.finRange rows).filterMap fun i =>
      (pairs.find? fun (_, k) => k == i).map fun (j, k) => (k, j)).Perm (pairs.map Prod.swap) := by
  have hfind : ∀ i j k, ((pairs.find? fun (_, k) => k == i).map fun (j, k) => (k, j)) = some (k, j) ↔
      (j, k) ∈ pairs ∧ k = i := by
    intro i j k
    rw [Option.map_eq_some_iff]
    constructor
    · rintro ⟨⟨j', k'⟩, hfound, e⟩
      cases e
      exact ⟨List.mem_of_find?_eq_some hfound, by simpa using List.find?_some hfound⟩
    · rintro ⟨hmem, rfl⟩
      cases hfound : pairs.find? fun (_, k') => k' == k with
      | none =>
        have := List.find?_eq_none.mp hfound _ hmem
        simp at this
      | some p =>
        have hsnd : p.2 = k := by simpa using List.find?_some hfound
        have : p = (j, k) :=
          List.inj_on_of_nodup_map hnodup (List.mem_of_find?_eq_some hfound) hmem hsnd
        exact ⟨(j, k), congrArg some this, rfl⟩
  refine (List.perm_ext_iff_of_nodup ?_ ?_).mpr ?_
  · apply (List.nodup_finRange rows).filterMap
    rintro i i' ⟨k, j⟩ h h'
    exact ((hfind i j k).mp h).2.symm.trans ((hfind i' j k).mp h').2
  · exact (List.Nodup.of_map _ hnodup).map Prod.swap_injective
  · rintro ⟨k, j⟩
    rw [List.mem_filterMap, List.mem_map]
    constructor
    · rintro ⟨i, -, h⟩
      exact ⟨(j, k), ((hfind i j k).mp h).1, rfl⟩
    · rintro ⟨⟨j', k'⟩, hmem, e⟩
      cases e
      exact ⟨k', List.mem_finRange k', (hfind k' j' k').mpr ⟨hmem, rfl⟩⟩

theorem Full.of_perm {p q : Assignment rows columns} (h : p.Perm q) (hq : Full q) : Full p :=
  ⟨(h.map Prod.fst).nodup_iff.mpr hq.rows_nodup, (h.map Prod.snd).nodup_iff.mpr hq.columns_nodup,
    h.length_eq.trans hq.length_eq⟩

theorem solve_spec (cost : Grid rows columns Int) :
    Full (solve cost) ∧ ∀ q, Full q → total cost (solve cost) ≤ total cost q := by
  unfold solve
  split
  · next hle =>
    obtain ⟨hfst, hsnd, hmin⟩ := cheapest_spec cost hle
    exact ⟨full_of_rows_eq hle hfst hsnd, hmin⟩
  · next hlt =>
    have hle : columns ≤ rows := by omega
    obtain ⟨hfst, hsnd, hmin⟩ := cheapest_spec cost.transpose hle
    have hperm := sorted_perm hsnd
    refine ⟨(full_of_rows_eq hle hfst hsnd).swap.of_perm hperm, fun q hq => ?_⟩
    have htotal : total cost q = total cost.transpose (q.map Prod.swap) := by
      rw [← total_transpose, List.map_map, Prod.swap_swap_eq, List.map_id]
    rw [total_perm cost hperm, total_transpose, htotal]
    exact hmin _ hq.swap

/-- As many pairs as there is room for, and no other such assignment costs less. -/
structure Cheapest (cost : Grid rows columns Int) (pairs : Assignment rows columns) : Prop where
  full : Full pairs
  least : ∀ q, Full q → total cost pairs ≤ total cost q

/-- What is found is full, and no full assignment is cheaper. -/
theorem solve_cheapest (cost : Grid rows columns Int) : Cheapest cost (solve cost) :=
  ⟨(solve_spec cost).1, (solve_spec cost).2⟩

end TreePredicate.Assignment
