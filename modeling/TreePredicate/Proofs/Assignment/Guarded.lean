import TreePredicate.Proofs.Assignment.Largest
import TreePredicate.Proofs.Number.Step

/-!
# The guard for forbidden cells

The solver is given a guard of twice the greatest cost and one more for each forbidden cell, and pairs
on forbidden cells are dropped from what it finds. One such cell costs more than two others, but not
more than three: a whole assignment without forbidden cells can cost more than one that has some.

* `Double.ofInt_nat`, `guard_ofInt` : small whole costs and their guard are exact;
* `entries`, `withGuard` : costs that may be missing, as doubles and with the guard in their place;
* `assignWith_entries` : the allowed pairs of an assignment that is cheapest with the guard are found;
* `IsOptimal`, `Finds` : complete assignments without forbidden cells that are cheapest among these;
* `finds_iff_guard_dearer` : such a one is found by every solver if and only if the guard makes each
  assignment with forbidden cells dearer than some complete one without, and always if there is room
  for two pairs at most;
* `steep` : costs for which it does not.
-/

set_option autoImplicit false

namespace TreePredicate

-- Unfolded, these are powers that no step may write out.
attribute [local irreducible] unitsPerOne unitsBound

/-! ## Small whole numbers -/

namespace Double

theorem ofUnits_ones (n : Nat) : ofUnits false (n * unitsPerOne) 1 = ofInt n := by
  show _ = ofUnits (decide ((n : Int) < 0)) ((n : Int).natAbs * unitsPerOne) 1
  rw [Int.natAbs_natCast, decide_eq_false (by omega)]

/-- A whole number of at most 53 digits is a double. -/
theorem ofInt_nat {n : Nat} (h : n ≤ 2 ^ 53) :
    ∃ m, ofInt n = .finite false m ∧ m.units = n * unitsPerOne := by
  have hexact : Rounding.significant 53 (n * unitsPerOne) 1 = n * unitsPerOne := exact_integer h
  have hbound : 2 ^ 53 * unitsPerOne < unitsBound := by decide +kernel
  have hle := Nat.mul_le_mul_right unitsPerOne h
  rw [← ofUnits_ones]
  obtain ⟨m, hm, hunits⟩ := ofUnits_finite false (by omega :
    Rounding.significant 53 (n * unitsPerOne) 1 < unitsBound)
  exact ⟨m, hm, hunits.trans hexact⟩

variable {a b : Nat}

theorem twice_ofInt (h : a ≤ 2 ^ 53) : (ofInt a).twice = ofInt (2 * a : Nat) := by
  obtain ⟨m, hm, hunits⟩ := ofInt_nat h
  rw [hm, twice, hunits, ← Nat.mul_assoc, ofUnits_ones]

theorem add_ofInt (ha : a ≤ 2 ^ 53) (hb : b ≤ 2 ^ 53) :
    (ofInt a).add (ofInt b) = ofInt (a + b : Nat) := by
  obtain ⟨m, hm, hunits⟩ := ofInt_nat ha
  obtain ⟨m', hm', hunits'⟩ := ofInt_nat hb
  rw [hm, hm', add, if_neg (by simp)]
  show ofSignedUnits ((m.units : Int) + m'.units) = _
  rw [ofSignedUnits, hunits, hunits', ← Int.natCast_add, Int.natAbs_natCast,
    decide_eq_false (by omega), ← Nat.add_mul, ofUnits_ones]

end Double

namespace Assignment

variable {rows columns : Nat}

theorem greater_ofInt {a b : Nat} (ha : a ≤ 2 ^ 53) (hb : b ≤ 2 ^ 53) :
    greater (Double.ofInt a) (Double.ofInt b) = Double.ofInt (max a b : Nat) := by
  obtain ⟨m, hm, hunits⟩ := Double.ofInt_nat ha
  obtain ⟨m', hm', hunits'⟩ := Double.ofInt_nat hb
  have hlt : Point.lt (.at (m.units : Int)) (.at (m'.units : Int)) = decide (a < b) := by
    rw [hunits, hunits']
    refine decide_eq_decide.mpr ?_
    rw [Int.ofNat_lt]
    exact Nat.mul_lt_mul_right unitsPerOne_pos
  have hcase : greater (Double.ofInt a) (Double.ofInt b) =
      if decide (a < b) = true then Double.ofInt b else Double.ofInt a := by
    rw [← hlt, hm, hm']
    rfl
  rw [hcase]
  by_cases hab : a < b
  · rw [if_pos (decide_eq_true hab), Nat.max_eq_right hab.le]
  · rw [if_neg (by simpa using hab), Nat.max_eq_left (by omega)]

/-- The guard for a small cost is exact. -/
theorem guard_ofInt {n : Nat} (h : 2 * n + 1 ≤ 2 ^ 53) :
    guard (Double.ofInt n) = Double.ofInt (2 * n + 1 : Nat) := by
  rw [guard, Double.twice_ofInt (by omega), ← Int.natCast_one, Double.add_ofInt (by omega) (by omega)]

theorem foldl_greater_ofInt {costs : List Nat} (h : ∀ n ∈ costs, n ≤ 2 ^ 53) {first : Nat}
    (hfirst : first ≤ 2 ^ 53) :
    (costs.map fun n : Nat => Double.ofInt n).foldl greater (Double.ofInt first) =
      Double.ofInt (costs.foldl max first : Nat) := by
  induction costs generalizing first with
  | nil => rw [List.map_nil, List.foldl_nil, List.foldl_nil]
  | cons n rest ih =>
    have hn := h n List.mem_cons_self
    rw [List.map_cons, List.foldl_cons, List.foldl_cons, greater_ofInt hfirst hn]
    exact ih (fun k hk => h k (List.mem_cons_of_mem _ hk)) (by omega)

/-! ## Costs with forbidden cells -/

/-- A cost as a double. A forbidden cell has none, and is infinite. -/
def entry : Option Nat → Double
  | some n => Double.ofInt n
  | none => .infinite false

/-- Costs as doubles. -/
def entries (cost : Grid rows columns (Option Nat)) : Grid rows columns Double :=
  fun i j => entry (cost i j)

/-- The costs of the cells that are not forbidden. -/
def finiteCosts (cost : Grid rows columns (Option Nat)) : List Nat :=
  (Grid.places rows columns).filterMap fun (i, j) => cost i j

/-- The greatest of them. -/
def greatest (cost : Grid rows columns (Option Nat)) : Nat := (finiteCosts cost).max?.getD 0

/-- Costs with the guard for the forbidden cells. -/
def withGuard (cost : Grid rows columns (Option Nat)) : Grid rows columns Int :=
  fun i j => ((cost i j).getD (2 * greatest cost + 1) : Nat)

/-- Costs whose guard is exact. -/
def AreSmall (cost : Grid rows columns (Option Nat)) : Prop :=
  ∀ i j n, cost i j = some n → 2 * n + 1 ≤ 2 ^ 53

/-- No pair is on a forbidden cell. -/
def IsAllowed (cost : Grid rows columns (Option Nat)) (pairs : Assignment rows columns) : Prop :=
  ∀ p ∈ pairs, (cost p.1 p.2).isSome = true

/-- The sum of the costs of an assignment without forbidden cells. -/
def price (cost : Grid rows columns (Option Nat)) (pairs : Assignment rows columns) : Nat :=
  (pairs.map fun p => (cost p.1 p.2).getD 0).sum

/-- As many pairs as there is room for, none on a forbidden cell, and no other such assignment costs
less. -/
structure IsOptimal (cost : Grid rows columns (Option Nat)) (pairs : Assignment rows columns) :
    Prop where
  full : Full pairs
  allowed : IsAllowed cost pairs
  least : ∀ q, Full q → IsAllowed cost q → price cost pairs ≤ price cost q

/-- A cheapest complete assignment without forbidden cells is found through a solver. -/
def Finds (solver : Grid rows columns Double → Except Fault (Assignment rows columns))
    (cost : Grid rows columns (Option Nat)) : Prop :=
  ∃ pairs, assignWith solver (entries cost) = .ok pairs ∧ IsOptimal cost pairs

variable {cost : Grid rows columns (Option Nat)}

theorem isForbidden_entry {c : Option Nat} (h : ∀ n, c = some n → n ≤ 2 ^ 53) :
    isForbidden (entry c) = c.isNone := by
  cases c with
  | none => rfl
  | some n =>
    obtain ⟨m, hm, -⟩ := Double.ofInt_nat (h n rfl)
    rw [entry, hm]
    rfl

theorem mem_finiteCosts {n : Nat} : n ∈ finiteCosts cost ↔ ∃ i j, cost i j = some n := by
  unfold finiteCosts
  rw [List.mem_filterMap]
  constructor
  · rintro ⟨⟨i, j⟩, -, hcell⟩
    exact ⟨i, j, hcell⟩
  · rintro ⟨i, j, hcell⟩
    exact ⟨(i, j), Grid.mem_places i j, hcell⟩

theorem le_greatest {i : Fin rows} {j : Fin columns} {n : Nat} (h : cost i j = some n) :
    n ≤ greatest cost := by
  have hmem := mem_finiteCosts.mpr ⟨i, j, h⟩
  unfold greatest
  cases hmax : (finiteCosts cost).max? with
  | none => simp [List.max?_eq_none_iff.mp hmax] at hmem
  | some k => exact (List.max?_eq_some_iff.mp hmax).2 n hmem

/-- The guard is exact. -/
theorem greatest_spec (hsmall : AreSmall cost) : 2 * greatest cost + 1 ≤ 2 ^ 53 := by
  unfold greatest
  cases hmax : (finiteCosts cost).max? with
  | none => simp
  | some k =>
    obtain ⟨i, j, hcell⟩ := mem_finiteCosts.mp (List.max?_eq_some_iff.mp hmax).1
    exact hsmall i j k hcell

/-- The solver is given the costs and the guard, unless all cells are forbidden. -/
theorem given?_entries (hsmall : AreSmall cost) :
    ((∀ i j, cost i j = none) ∧ given? (entries cost) = none) ∨
      given? (entries cost) = some fun i j => Double.ofInt (withGuard cost i j) := by
  have hforbidden : ∀ i j, isForbidden (entries cost i j) = (cost i j).isNone := by
    intro i j
    refine isForbidden_entry fun n hn => ?_
    have := hsmall i j n hn
    omega
  have hallowed : ((Grid.places rows columns).map fun (i, j) => entries cost i j).filter
      (!isForbidden ·) = (finiteCosts cost).map fun n : Nat => Double.ofInt n := by
    unfold finiteCosts
    induction Grid.places rows columns with
    | nil => rfl
    | cons place rest ih =>
      obtain ⟨i, j⟩ := place
      rw [List.map_cons, List.filter_cons, hforbidden, List.filterMap_cons]
      cases hcell : cost i j with
      | none => simpa [hcell] using ih
      | some n =>
        rw [ih]
        simp [hcell, entries, entry]
  unfold given?
  rw [hallowed]
  cases hcosts : finiteCosts cost with
  | nil =>
    refine .inl ⟨fun i j => ?_, rfl⟩
    cases hcell : cost i j with
    | none => rfl
    | some n => simpa [hcosts] using mem_finiteCosts.mpr ⟨i, j, hcell⟩
  | cons first others =>
    right
    have hle : ∀ n ∈ first :: others, n ≤ 2 ^ 53 := by
      intro n hn
      obtain ⟨i, j, hcell⟩ := mem_finiteCosts.mp (hcosts ▸ hn)
      have := hsmall i j n hcell
      omega
    have hgreatest : greatest cost = others.foldl max first := by
      rw [greatest, hcosts, List.max?_cons']
      rfl
    have hguard : guard ((others.map fun n : Nat => Double.ofInt n).foldl greater
        (Double.ofInt first)) = Double.ofInt (2 * greatest cost + 1 : Nat) := by
      rw [foldl_greater_ofInt (fun n hn => hle n (List.mem_cons_of_mem _ hn))
        (hle first List.mem_cons_self), ← hgreatest, guard_ofInt (greatest_spec hsmall)]
    rw [List.map_cons]
    dsimp only
    rw [hguard]
    refine congrArg some ?_
    funext i j
    rw [hforbidden]
    unfold withGuard
    cases hcell : cost i j with
    | none => rw [Option.isNone_none, if_pos rfl, Option.getD_none]
    | some n => simp [hcell, entries, entry]

/-- A cost with the guard is small. -/
theorem withGuard_le (hsmall : AreSmall cost) (i : Fin rows) (j : Fin columns) :
    (cost i j).getD (2 * greatest cost + 1) ≤ 2 ^ 53 := by
  cases hcell : cost i j with
  | none =>
    rw [Option.getD_none]
    exact greatest_spec hsmall
  | some n =>
    have := hsmall i j n hcell
    rw [Option.getD_some]
    omega

theorem isFinite_withGuard (hsmall : AreSmall cost) (i : Fin rows) (j : Fin columns) :
    (Double.ofInt (withGuard cost i j)).isFinite = true := by
  obtain ⟨m, hm, -⟩ := Double.ofInt_nat (withGuard_le hsmall i j)
  rw [withGuard, hm]
  rfl

theorem inUnits_withGuard (hsmall : AreSmall cost) :
    inUnits (fun i j => Double.ofInt (withGuard cost i j)) =
      fun i j => withGuard cost i j * unitsPerOne := by
  funext i j
  obtain ⟨m, hm, hunits⟩ := Double.ofInt_nat (withGuard_le hsmall i j)
  rw [inUnits, withGuard, hm]
  show signed false m.units = _
  rw [signed, if_neg Bool.false_ne_true, hunits, Int.natCast_mul]

/-! ## Cheapest assignments with the guard -/

theorem total_mul (cost : Grid rows columns Int) (k : Int) (pairs : Assignment rows columns) :
    total (fun i j => cost i j * k) pairs = total cost pairs * k := by
  induction pairs with
  | nil => simp [total]
  | cons p rest ih => rw [total_cons, ih, total_cons, Int.add_mul]

/-- The unit in which costs are counted does not matter. -/
theorem cheapest_mul_iff {cost : Grid rows columns Int} {k : Int} (hk : 0 < k)
    {pairs : Assignment rows columns} :
    Cheapest (fun i j => cost i j * k) pairs ↔ Cheapest cost pairs := by
  have hle : ∀ q, total (fun i j => cost i j * k) pairs ≤ total (fun i j => cost i j * k) q ↔
      total cost pairs ≤ total cost q := by
    intro q
    rw [total_mul, total_mul]
    exact ⟨fun h => Int.le_of_mul_le_mul_right h hk, fun h => Int.mul_le_mul_of_nonneg_right h hk.le⟩
  constructor
  · rintro ⟨hfull, hleast⟩
    exact ⟨hfull, fun q hq => (hle q).mp (hleast q hq)⟩
  · rintro ⟨hfull, hleast⟩
    exact ⟨hfull, fun q hq => (hle q).mpr (hleast q hq)⟩

/-- The pairs that are not on forbidden cells. -/
def allowedPart (cost : Grid rows columns (Option Nat)) (pairs : Assignment rows columns) :
    Assignment rows columns :=
  pairs.filter fun (i, j) => (cost i j).isSome

theorem allowedPart_eq_self {pairs : Assignment rows columns} (h : IsAllowed cost pairs) :
    allowedPart cost pairs = pairs := List.filter_eq_self.mpr h

/-- Without its pairs on forbidden cells an assignment is not full. -/
theorem isAllowed_of_full {pairs : Assignment rows columns} (hfull : Full pairs)
    (h : Full (allowedPart cost pairs)) : IsAllowed cost pairs := by
  apply List.length_filter_eq_length_iff.mp
  rw [hfull.length_eq]
  exact h.length_eq

/-- What a solver finds for costs with the guard, and what is left of it. -/
theorem assignWith_eq (hsmall : AreSmall cost)
    (solver : Grid rows columns Double → Except Fault (Assignment rows columns)) :
    ((∀ i j, cost i j = none) ∧ assignWith solver (entries cost) = .ok []) ∨
      assignWith solver (entries cost) =
        (solver fun i j => Double.ofInt (withGuard cost i j)).map (allowedPart cost) := by
  have hallowed : ∀ i j, (!isForbidden (entries cost i j)) = (cost i j).isSome := by
    intro i j
    rw [entries, isForbidden_entry, Option.not_isNone]
    intro n hn
    have := hsmall i j n hn
    omega
  unfold assignWith
  simp only [hallowed]
  rcases given?_entries hsmall with ⟨hnone, hgiven⟩ | hgiven
  · exact .inl ⟨hnone, by rw [hgiven]⟩
  · right
    rw [hgiven]
    rfl

/-- Through every solver, the pairs that are not on forbidden cells of an assignment that is cheapest
with the guard. -/
theorem assignWith_entries (hsmall : AreSmall cost)
    {solver : Grid rows columns Double → Except Fault (Assignment rows columns)}
    (hsolver : Solves solver) :
    ∃ pairs, Cheapest (withGuard cost) pairs ∧
      assignWith solver (entries cost) = .ok (allowedPart cost pairs) := by
  rcases assignWith_eq hsmall solver with ⟨hnone, hassign⟩ | hassign
  · refine ⟨_, solve_cheapest _, ?_⟩
    rw [hassign]
    simp [allowedPart, hnone]
  · obtain ⟨pairs, hpairs, hcheapest⟩ := hsolver _ (isFinite_withGuard hsmall)
    rw [inUnits_withGuard hsmall,
      cheapest_mul_iff (Int.natCast_pos.mpr unitsPerOne_pos)] at hcheapest
    refine ⟨pairs, hcheapest, ?_⟩
    rw [hassign, hpairs]
    rfl

/-- Some solver finds a given assignment that is cheapest with the guard. -/
theorem exists_solver (hsmall : AreSmall cost) {pairs : Assignment rows columns}
    (h : Cheapest (withGuard cost) pairs) :
    ∃ solver, Solves solver ∧ assignWith solver (entries cost) = .ok (allowedPart cost pairs) := by
  classical
  refine ⟨fun given => if given = (fun i j => Double.ofInt (withGuard cost i j)) then .ok pairs
    else solveDoubles given, ?_, ?_⟩
  · intro given hfinite
    by_cases heq : given = fun i j => Double.ofInt (withGuard cost i j)
    · refine ⟨pairs, if_pos heq, ?_⟩
      rw [heq, inUnits_withGuard hsmall]
      exact (cheapest_mul_iff (Int.natCast_pos.mpr unitsPerOne_pos)).mpr h
    · obtain ⟨found, hfound, hcheapest⟩ := solves_solveDoubles given hfinite
      exact ⟨found, (if_neg heq).trans hfound, hcheapest⟩
  · rcases assignWith_eq hsmall _ with ⟨hnone, hassign⟩ | hassign
    · rw [hassign]
      simp [allowedPart, hnone]
    · rw [hassign, if_pos rfl]
      rfl

/-! ## Complete assignments without forbidden cells -/

/-- Without forbidden cells, the guard plays no part. -/
theorem total_withGuard {pairs : Assignment rows columns} (h : IsAllowed cost pairs) :
    total (withGuard cost) pairs = price cost pairs := by
  unfold price
  induction pairs with
  | nil => rfl
  | cons p rest ih =>
    obtain ⟨n, hn⟩ := Option.isSome_iff_exists.mp (h p List.mem_cons_self)
    rw [total_cons, ih fun q hq => h q (List.mem_cons_of_mem _ hq), List.map_cons, List.sum_cons,
      withGuard, hn]
    simp

/-- Each pair on a forbidden cell costs the guard. -/
theorem guard_le_total {pairs : Assignment rows columns} (h : ¬IsAllowed cost pairs) :
    ((2 * greatest cost + 1 : Nat) : Int) ≤ total (withGuard cost) pairs := by
  have hnonneg : ∀ q : Assignment rows columns, 0 ≤ total (withGuard cost) q := by
    intro q
    rw [total_eq_sum]
    exact List.sum_nonneg (List.forall_mem_map.mpr fun p _ => Int.natCast_nonneg _)
  unfold IsAllowed at h
  push Not at h
  obtain ⟨p, hp, hforbidden⟩ := h
  obtain ⟨front, rest, rfl⟩ := List.append_of_mem hp
  have hguard : withGuard cost p.1 p.2 = (2 * greatest cost + 1 : Nat) := by
    rw [withGuard, Option.not_isSome_iff_eq_none.mp hforbidden, Option.getD_none]
  have hfront := hnonneg front
  have hrest := hnonneg rest
  rw [total_eq_sum] at hfront hrest ⊢
  rw [List.map_append, List.sum_append, List.map_cons, List.sum_cons, hguard]
  omega

/-- A whole assignment without forbidden cells costs no more than so many greatest costs. -/
theorem price_le (cost : Grid rows columns (Option Nat)) (pairs : Assignment rows columns) :
    price cost pairs ≤ pairs.length * greatest cost := by
  unfold price
  have hle : ∀ n ∈ pairs.map fun p => (cost p.1 p.2).getD 0, n ≤ greatest cost := by
    refine List.forall_mem_map.mpr fun p _ => ?_
    cases hcell : cost p.1 p.2 with
    | none => exact Nat.zero_le _
    | some n => exact le_greatest hcell
  have hsum := List.sum_le_card_nsmul _ _ hle
  rw [List.length_map] at hsum
  exact hsum

/-- What is left of a cheapest assignment is optimal if and only if nothing had to be dropped. -/
theorem isOptimal_allowedPart_iff {pairs : Assignment rows columns}
    (h : Cheapest (withGuard cost) pairs) :
    IsOptimal cost (allowedPart cost pairs) ↔ IsAllowed cost pairs := by
  constructor
  · intro hoptimal
    exact isAllowed_of_full h.full hoptimal.full
  · intro hallowed
    rw [allowedPart_eq_self hallowed]
    refine ⟨h.full, hallowed, fun q hq hqallowed => ?_⟩
    have hle := h.least q hq
    rw [total_withGuard hallowed, total_withGuard hqallowed] at hle
    exact Int.ofNat_le.mp hle

/-- The guard makes each assignment with forbidden cells dearer than some complete one without. -/
def GuardIsDearer (cost : Grid rows columns (Option Nat)) : Prop :=
  ∀ q, Full q → ¬IsAllowed cost q →
    ∃ p, Full p ∧ IsAllowed cost p ∧ total (withGuard cost) p < total (withGuard cost) q

theorem isAllowed_of_guardIsDearer (h : GuardIsDearer cost) {pairs : Assignment rows columns}
    (hcheapest : Cheapest (withGuard cost) pairs) : IsAllowed cost pairs := by
  by_contra hforbidden
  obtain ⟨p, hp, -, hlt⟩ := h pairs hcheapest.full hforbidden
  have hle := hcheapest.least p hp
  omega

/-- Otherwise some assignment with forbidden cells is cheapest. -/
theorem exists_cheapest_of_not_guardIsDearer (h : ¬GuardIsDearer cost) :
    ∃ pairs, Cheapest (withGuard cost) pairs ∧ ¬IsAllowed cost pairs := by
  unfold GuardIsDearer at h
  push Not at h
  obtain ⟨q, hq, hforbidden, hle⟩ := h
  by_cases hallowed : IsAllowed cost (solve (withGuard cost))
  · have hcheapest := solve_cheapest (withGuard cost)
    refine ⟨q, ⟨hq, fun r hr => ?_⟩, hforbidden⟩
    exact (hle _ hcheapest.full hallowed).trans (hcheapest.least r hr)
  · exact ⟨_, solve_cheapest _, hallowed⟩

theorem guardIsDearer_of_price_le {p : Assignment rows columns} (hfull : Full p)
    (hallowed : IsAllowed cost p) (hprice : price cost p ≤ 2 * greatest cost) :
    GuardIsDearer cost := by
  intro q _ hforbidden
  refine ⟨p, hfull, hallowed, ?_⟩
  have hguard := guard_le_total hforbidden
  rw [total_withGuard hallowed]
  omega

/-- For small costs that leave a complete assignment without forbidden cells: every solver makes for
the allowed pairs of an assignment that is cheapest with the guard. A cheapest complete assignment
without forbidden cells is found whatever the solver if and only if the guard makes each assignment
with forbidden cells dearer than some complete one without. It does so if a complete assignment costs
at most twice the greatest cost, hence always where there is room for two pairs at most. Where an
assignment with forbidden cells is cheaper than all complete ones without, no solver finds one. -/
theorem finds_iff_guard_dearer (hsmall : AreSmall cost)
    (hcomplete : ∃ p, Full p ∧ IsAllowed cost p) :
    (∀ solver, Solves solver → ∃ pairs, Cheapest (withGuard cost) pairs ∧
      assignWith solver (entries cost) = .ok (allowedPart cost pairs)) ∧
    ((∀ solver, Solves solver → Finds solver cost) ↔ GuardIsDearer cost) ∧
    ((∃ p, Full p ∧ IsAllowed cost p ∧ price cost p ≤ 2 * greatest cost) →
      ∀ solver, Solves solver → Finds solver cost) ∧
    (min rows columns ≤ 2 → ∀ solver, Solves solver → Finds solver cost) ∧
    ((∃ q, Full q ∧ ∀ p, Full p → IsAllowed cost p →
        total (withGuard cost) q < total (withGuard cost) p) →
      ∀ solver, Solves solver → ¬Finds solver cost) := by
  have hfinds : GuardIsDearer cost → ∀ solver, Solves solver → Finds solver cost := by
    intro hdearer solver hsolver
    obtain ⟨pairs, hcheapest, hassign⟩ := assignWith_entries hsmall hsolver
    exact ⟨_, hassign, (isOptimal_allowedPart_iff hcheapest).mpr
      (isAllowed_of_guardIsDearer hdearer hcheapest)⟩
  refine ⟨fun solver hsolver => assignWith_entries hsmall hsolver, ⟨fun hall => ?_, hfinds⟩, ?_, ?_,
    ?_⟩
  · by_contra hnot
    obtain ⟨pairs, hcheapest, hforbidden⟩ := exists_cheapest_of_not_guardIsDearer hnot
    obtain ⟨solver, hsolver, hassign⟩ := exists_solver hsmall hcheapest
    obtain ⟨found, hfound, hoptimal⟩ := hall solver hsolver
    cases hassign.symm.trans hfound
    exact hforbidden ((isOptimal_allowedPart_iff hcheapest).mp hoptimal)
  · rintro ⟨p, hfull, hallowed, hprice⟩
    exact hfinds (guardIsDearer_of_price_le hfull hallowed hprice)
  · intro htwo
    obtain ⟨p, hfull, hallowed⟩ := hcomplete
    refine hfinds (guardIsDearer_of_price_le hfull hallowed ((price_le cost p).trans ?_))
    exact Nat.mul_le_mul_right _ (hfull.length_eq ▸ htwo)
  · rintro ⟨q, hq, hlt⟩ solver hsolver ⟨found, hfound, hoptimal⟩
    obtain ⟨pairs, hcheapest, hassign⟩ := assignWith_entries hsmall hsolver
    cases hassign.symm.trans hfound
    have hallowed := (isOptimal_allowedPart_iff hcheapest).mp hoptimal
    have hle := hcheapest.least q hq
    have := hlt pairs hcheapest.full hallowed
    omega

/-- Costs whose only complete assignment without forbidden cells is the diagonal, for three times the
greatest cost. -/
def steep : Grid 3 3 (Option Nat) := fun i j =>
  if j = i then some 3 else if j.val = i.val + 1 then some 0 else none

/-- The diagonal. -/
def diagonal : Assignment 3 3 := [(0, 0), (1, 1), (2, 2)]

/-- Two free pairs and one on a forbidden cell are cheaper than the diagonal, so only the former are
found. -/
theorem assign_steep :
    assign (entries steep) = .ok [(0, 1), (1, 2)] ∧ ¬Full ([(0, 1), (1, 2)] : Assignment 3 3) ∧
      Full diagonal ∧ IsAllowed steep diagonal := by
  refine ⟨by decide +kernel, ?_, ⟨by decide, by decide, rfl⟩, ?_⟩
  · intro hfull
    cases hfull.length_eq
  · unfold IsAllowed
    decide

/-- Costs of two rows and three columns, of which the cheapest cells leave a row without any. -/
def crossed : Grid 2 3 (Option Nat) := fun i j =>
  if j.val = 0 then some (i.val + 1) else if i.val = 0 then some 9 else none

theorem finds_crossed :
    AreSmall crossed ∧ (∃ p, Full p ∧ IsAllowed crossed p) ∧ Finds solveDoubles crossed := by
  have hsmall : AreSmall crossed := by
    intro i j n hcell
    have hle : n ≤ 9 := by
      unfold crossed at hcell
      split at hcell
      · cases hcell
        omega
      · split at hcell
        · cases hcell
          decide
        · cases hcell
    omega
  have hcomplete : ∃ p, Full p ∧ IsAllowed crossed p := by
    refine ⟨[(0, 1), (1, 0)], ⟨by decide, by decide, rfl⟩, ?_⟩
    unfold IsAllowed
    decide
  obtain ⟨-, -, -, htwo, -⟩ := finds_iff_guard_dearer hsmall hcomplete
  exact ⟨hsmall, hcomplete, htwo (by decide) solveDoubles solves_solveDoubles⟩

end Assignment

end TreePredicate
