import Mathlib.Data.List.Forall2
import Mathlib.Data.List.Nodup
import Mathlib.Order.Lattice
import TreePredicate.Generation.Slots
import TreePredicate.Node

/-!
# Lists with items at given positions

* `Reaches` : a list of some size has an item at a position, which is the one in its slot
  (`atPosition?_eq_slot`);
* `firstFit?_eq_some`, `firstFit?_eq_none` : the first size that fits;
* `fits_enough` : distinct positions fit where the two ends do not meet;
* `size_spec` : the size of a list is the least one that reaches all positions and in which they
  address distinct slots;
* `atPosition?_fill_arrange` : each item is found again at its position;
* `size_perm`, `arrange_perm` : the order in which positions are given does not matter;
* `forall₂_arrange`, `forall₂_fill` : related items at the same positions make related lists.
-/

set_option autoImplicit false

namespace TreePredicate.Slots

variable {α : Type}

/-- A list of some size has an item at a position. -/
def Reaches (size : Nat) (position : Int) : Prop := -size ≤ position ∧ position < size

theorem slot_of_nonneg {size : Nat} {position : Int} (h : Reaches size position)
    (hpos : 0 ≤ position) : slot size position = position.toNat := by
  unfold slot
  rw [Int.emod_eq_of_lt hpos h.2]

theorem slot_of_neg {size : Nat} {position : Int} (h : Reaches size position)
    (hneg : position < 0) : slot size position = (size + position).toNat := by
  obtain ⟨hlow, -⟩ := h
  unfold slot
  rw [← Int.add_emod_left, Int.emod_eq_of_lt (by omega) (by omega)]

theorem slot_lt {size : Nat} {position : Int} (h : Reaches size position) :
    slot size position < size := by
  have hlow := h.1
  have hhigh := h.2
  rcases lt_or_ge position 0 with hneg | hpos
  · rw [slot_of_neg h hneg]
    omega
  · rw [slot_of_nonneg h hpos]
    omega

theorem atPosition?_eq_slot {items : List α} {position : Int} (h : Reaches items.length position) :
    atPosition? items position = items[slot items.length position]? := by
  have hlow := h.1
  unfold atPosition?
  rcases lt_or_ge position 0 with hneg | hpos
  · rw [if_neg (by omega), if_pos (by omega), slot_of_neg h hneg]
  · rw [if_pos hpos, slot_of_nonneg h hpos]

/-! ## The size of a list -/

theorem le_foldl_max {n start : Nat} {ns : List Nat} (h : n ≤ start ∨ n ∈ ns) :
    n ≤ ns.foldl max start := by
  induction ns generalizing start with
  | nil => exact h.resolve_right List.not_mem_nil
  | cons m rest ih =>
    rw [List.foldl_cons]
    apply ih
    rw [List.mem_cons] at h
    rcases h with h | rfl | h
    · exact .inl (le_trans h (le_max_left _ _))
    · exact .inl (le_max_right _ _)
    · exact .inr h

theorem foldl_max_le {bound start : Nat} {ns : List Nat} (hstart : start ≤ bound)
    (h : ∀ n ∈ ns, n ≤ bound) : ns.foldl max start ≤ bound := by
  induction ns generalizing start with
  | nil => exact hstart
  | cons m rest ih =>
    rw [List.foldl_cons]
    exact ih (max_le hstart (h m List.mem_cons_self)) fun n hn => h n (List.mem_cons_of_mem _ hn)

theorem le_ahead {positions : List Int} {position : Int} (h : position ∈ positions) :
    (position + 1).toNat ≤ ahead positions :=
  le_foldl_max (.inr (List.mem_map.mpr ⟨position, h, rfl⟩))

theorem le_behind {positions : List Int} {position : Int} (h : position ∈ positions) :
    (-position).toNat ≤ behind positions :=
  le_foldl_max (.inr (List.mem_map.mpr ⟨position, h, rfl⟩))

/-- The size that each end needs is the one that reaches all positions. -/
theorem max_ahead_behind_le_iff {positions : List Int} {n : Nat} :
    max (ahead positions) (behind positions) ≤ n ↔ ∀ i ∈ positions, Reaches n i := by
  constructor
  · intro h i hi
    have hahead := le_ahead hi
    have hbehind := le_behind hi
    unfold Reaches
    omega
  · intro h
    refine max_le (foldl_max_le (Nat.zero_le n) ?_) (foldl_max_le (Nat.zero_le n) ?_)
    all_goals
      intro m hm
      obtain ⟨i, hi, rfl⟩ := List.mem_map.mp hm
      obtain ⟨hlow, hhigh⟩ := h i hi
      omega

theorem fits_iff (positions : List Int) (n : Nat) :
    fits positions n = true ↔ (positions.map (slot n)).Nodup := by
  unfold fits
  rw [decide_eq_true_iff]

/-- Where the ends of a list do not meet, distinct positions address distinct slots. -/
theorem fits_enough {positions : List Int} (h : positions.Nodup) :
    fits positions (ahead positions + behind positions) = true := by
  rw [fits_iff]
  refine List.Nodup.map_on ?_ h
  intro i hi j hj hslot
  have hreach := max_ahead_behind_le_iff.mp
    (max_le (Nat.le_add_right _ _) (Nat.le_add_left (behind positions) (ahead positions)))
  have := le_ahead hi
  have := le_behind hi
  have := le_ahead hj
  have := le_behind hj
  rcases lt_or_ge i 0 with hi0 | hi0 <;> rcases lt_or_ge j 0 with hj0 | hj0
  · rw [slot_of_neg (hreach i hi) hi0, slot_of_neg (hreach j hj) hj0] at hslot
    omega
  · rw [slot_of_neg (hreach i hi) hi0, slot_of_nonneg (hreach j hj) hj0] at hslot
    omega
  · rw [slot_of_nonneg (hreach i hi) hi0, slot_of_neg (hreach j hj) hj0] at hslot
    omega
  · rw [slot_of_nonneg (hreach i hi) hi0, slot_of_nonneg (hreach j hj) hj0] at hslot
    omega

theorem firstFit?_eq_some {positions : List Int} {start count n : Nat}
    (h : firstFit? positions start count = some n) :
    start ≤ n ∧ n < start + count ∧ fits positions n = true ∧
      ∀ m, start ≤ m → m < n → fits positions m = false := by
  induction count generalizing start with
  | zero => cases h
  | succ count ih =>
    rw [firstFit?] at h
    split at h
    · next hfits =>
      cases h
      exact ⟨le_rfl, by omega, hfits, fun m _ _ => by omega⟩
    · next hfits =>
      obtain ⟨hle, hlt, hn, hleast⟩ := ih h
      refine ⟨by omega, by omega, hn, fun m hm hmn => ?_⟩
      rcases Nat.eq_or_lt_of_le hm with rfl | hm
      · exact Bool.eq_false_iff.mpr hfits
      · exact hleast m hm hmn

theorem firstFit?_eq_none {positions : List Int} {start count : Nat}
    (h : firstFit? positions start count = none) :
    ∀ m, start ≤ m → m < start + count → fits positions m = false := by
  induction count generalizing start with
  | zero => exact fun m _ _ => by omega
  | succ count ih =>
    rw [firstFit?] at h
    split at h
    · cases h
    · next hfits =>
      intro m hm hlt
      rcases Nat.eq_or_lt_of_le hm with rfl | hm
      · exact Bool.eq_false_iff.mpr hfits
      · exact ih h m hm (by omega)

/-- The size of a list is the least one that reaches distinct positions and in which they address
distinct slots. -/
theorem size_spec {positions : List Int} (h : positions.Nodup) :
    (∀ i ∈ positions, Reaches (size positions) i) ∧ fits positions (size positions) = true ∧
      ∀ m, (∀ i ∈ positions, Reaches m i) → fits positions m = true → size positions ≤ m := by
  have hstart : max (ahead positions) (behind positions) ≤ ahead positions + behind positions :=
    max_le (Nat.le_add_right _ _) (Nat.le_add_left _ _)
  have hsize : size positions = (firstFit? positions (max (ahead positions) (behind positions))
      (ahead positions + behind positions + 1 - max (ahead positions) (behind positions))).getD
        (ahead positions + behind positions) := rfl
  cases hfirst : firstFit? positions (max (ahead positions) (behind positions))
      (ahead positions + behind positions + 1 - max (ahead positions) (behind positions)) with
  | none =>
    have := firstFit?_eq_none hfirst (ahead positions + behind positions) hstart (by omega)
    rw [fits_enough h] at this
    cases this
  | some n =>
    rw [hfirst, Option.getD_some] at hsize
    rw [hsize]
    obtain ⟨hle, -, hfits, hleast⟩ := firstFit?_eq_some hfirst
    refine ⟨max_ahead_behind_le_iff.mp hle, hfits, fun m hreach hm => ?_⟩
    by_contra hlt
    have := hleast m (max_ahead_behind_le_iff.mpr hreach) (by omega)
    rw [hm] at this
    cases this

/-! ## The items of a list -/

theorem length_arrange (n : Nat) (items : List (Int × α)) : (arrange n items).length = n := by
  simp [arrange]

theorem find?_slot {n : Nat} {items : List (Int × α)}
    (hfits : (items.map fun item => slot n item.1).Nodup) {item : Int × α} (hitem : item ∈ items) :
    (items.find? fun other => slot n other.1 == slot n item.1) = some item := by
  induction items with
  | nil => cases hitem
  | cons first rest ih =>
    rw [List.map_cons, List.nodup_cons] at hfits
    rcases List.mem_cons.mp hitem with rfl | hrest
    · rw [List.find?_cons_of_pos (by simp)]
    · rw [List.find?_cons_of_neg, ih hfits.2 hrest]
      rw [beq_iff_eq]
      intro heq
      exact hfits.1 (List.mem_map.mpr ⟨item, hrest, heq.symm⟩)

/-- Items with slots of their own stand in them. -/
theorem getElem?_arrange {n : Nat} {items : List (Int × α)}
    (hfits : fits (items.map Prod.fst) n = true) {item : Int × α} (hitem : item ∈ items)
    (hreach : Reaches n item.1) : (arrange n items)[slot n item.1]? = some (some item.2) := by
  rw [fits_iff, List.map_map] at hfits
  unfold arrange
  rw [List.getElem?_map, List.getElem?_range (slot_lt hreach), Option.map_some]
  exact congrArg some (congrArg (Option.map Prod.snd) (find?_slot hfits hitem))

theorem length_fillFrom (before : α) (slots : List (Option α)) :
    (fillFrom before slots).length = slots.length := by
  induction slots generalizing before with
  | nil => rfl
  | cons slot rest ih => cases slot <;> simp [fillFrom, ih]

theorem getElem?_fillFrom {before x : α} {slots : List (Option α)} {n : Nat}
    (h : slots[n]? = some (some x)) : (fillFrom before slots)[n]? = some x := by
  induction slots generalizing before n with
  | nil => simp at h
  | cons slot rest ih =>
    cases n with
    | zero =>
      rw [List.getElem?_cons_zero, Option.some.injEq] at h
      rw [h, fillFrom, List.getElem?_cons_zero]
    | succ n =>
      rw [List.getElem?_cons_succ] at h
      cases slot with
      | none => rw [fillFrom, List.getElem?_cons_succ, ih h]
      | some y => rw [fillFrom, List.getElem?_cons_succ, ih h]

/-- Filling leaves the items in their slots, and makes no slots. -/
theorem getElem?_fill {x : α} {slots : List (Option α)} {n : Nat}
    (h : slots[n]? = some (some x)) :
    (fill slots).length = slots.length ∧ (fill slots)[n]? = some x := by
  unfold fill
  split
  · next hnone =>
    have := List.findSome?_eq_none_iff.mp hnone (some x) (List.mem_of_getElem? h)
    cases this
  · next first hfirst => exact ⟨length_fillFrom first slots, getElem?_fillFrom h⟩

/-- A list made of items at distinct positions has each of them at its position. -/
theorem atPosition?_fill_arrange {items : List (Int × α)} (h : (items.map Prod.fst).Nodup)
    {item : Int × α} (hitem : item ∈ items) :
    atPosition? (fill (arrange (size (items.map Prod.fst)) items)) item.1 = some item.2 := by
  obtain ⟨hreach, hfits, -⟩ := size_spec h
  have hitem' := hreach item.1 (List.mem_map.mpr ⟨item, hitem, rfl⟩)
  obtain ⟨hlength, hget⟩ := getElem?_fill (getElem?_arrange hfits hitem hitem')
  rw [length_arrange] at hlength
  rw [atPosition?_eq_slot (by rwa [hlength]), hlength, hget]

/-! ## The order of items -/

theorem fits_perm {positions positions' : List Int} (h : positions.Perm positions') (n : Nat) :
    fits positions n = fits positions' n := by
  rw [Bool.eq_iff_iff, fits_iff, fits_iff, (h.map (slot n)).nodup_iff]

/-- The least size for some positions is the least one for them in another order. -/
theorem size_perm {positions positions' : List Int} (hdistinct : positions.Nodup)
    (h : positions.Perm positions') : size positions = size positions' := by
  obtain ⟨hreach, hfits, hleast⟩ := size_spec hdistinct
  obtain ⟨hreach', hfits', hleast'⟩ := size_spec (h.nodup_iff.mp hdistinct)
  apply Nat.le_antisymm
  · exact hleast _ (fun i hi => hreach' i (h.mem_iff.mp hi)) ((fits_perm h _).trans hfits')
  · exact hleast' _ (fun i hi => hreach i (h.mem_iff.mpr hi)) ((fits_perm h _).symm.trans hfits)

/-- Where positions address distinct slots, no slot has two items to choose from. -/
theorem arrange_perm {n : Nat} {items items' : List (Int × α)}
    (hfits : fits (items.map Prod.fst) n = true) (h : items.Perm items') :
    arrange n items = arrange n items' := by
  have hnodup' : (items'.map fun item => slot n item.1).Nodup := by
    rw [fits_iff, List.map_map] at hfits
    exact (h.map _).nodup_iff.mp hfits
  unfold arrange
  refine List.map_congr_left fun k _ => congrArg (Option.map Prod.snd) ?_
  cases hfound : items.find? fun item => slot n item.1 == k with
  | some item =>
    have hslot := List.find?_some hfound
    have hmem := h.mem_iff.mp (List.mem_of_find?_eq_some hfound)
    rw [← eq_of_beq hslot]
    exact (find?_slot hnodup' hmem).symm
  | none =>
    refine (List.find?_eq_none.mpr fun item hitem => ?_).symm
    exact List.find?_eq_none.mp hfound item (h.mem_iff.mpr hitem)

section Related

variable {β : Type} {R : α → β → Prop}

theorem forall₂_arrange (n : Nat) {items : List (Int × α)} {items' : List (Int × β)}
    (h : List.Forall₂ (fun x y => x.1 = y.1 ∧ R x.2 y.2) items items') :
    List.Forall₂ (Option.Rel R) (arrange n items) (arrange n items') := by
  unfold arrange
  rw [List.forall₂_map_left_iff, List.forall₂_map_right_iff]
  refine List.forall₂_same.mpr fun k _ => ?_
  induction h with
  | nil => exact .none
  | @cons x y _ _ hxy _ ih =>
    obtain ⟨position, a⟩ := x
    obtain ⟨position', b⟩ := y
    obtain ⟨rfl, hab⟩ := hxy
    rw [List.find?_cons, List.find?_cons]
    dsimp only
    cases slot n position == k with
    | true => exact .some hab
    | false => exact ih

theorem forall₂_fillFrom {before : α} {before' : β} {slots : List (Option α)}
    {slots' : List (Option β)} (hbefore : R before before')
    (h : List.Forall₂ (Option.Rel R) slots slots') :
    List.Forall₂ R (fillFrom before slots) (fillFrom before' slots') := by
  induction h generalizing before before' with
  | nil => exact .nil
  | cons hslot _ ih =>
    cases hslot with
    | none => exact .cons hbefore (ih hbefore)
    | some hxy => exact .cons hxy (ih hxy)

theorem forall₂_fill {slots : List (Option α)} {slots' : List (Option β)}
    (h : List.Forall₂ (Option.Rel R) slots slots') :
    List.Forall₂ R (fill slots) (fill slots') := by
  have hfirst : Option.Rel R (slots.findSome? id) (slots'.findSome? id) := by
    induction h with
    | nil => exact .none
    | cons hslot _ ih =>
      cases hslot with
      | none => exact ih
      | some hxy => exact .some hxy
  unfold fill
  generalize slots.findSome? id = first? at hfirst ⊢
  generalize slots'.findSome? id = first'? at hfirst ⊢
  cases hfirst with
  | none => exact .nil
  | some hxy => exact forall₂_fillFrom hxy h

end Related

end TreePredicate.Slots
