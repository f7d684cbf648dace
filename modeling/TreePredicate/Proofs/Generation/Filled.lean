import Mathlib.Data.Nat.Find
import Mathlib.Order.Bounds.Basic
import TreePredicate.Proofs.Generation.Sound

/-!
# Short lists with filled gaps

A list that is generated for items at given positions is as short as these positions allow, and every
slot that none of them addresses takes the item of a neighbour.

* `Slots.Suits`, `Slots.isLeast_size` : the sizes in which positions have slots of their own, of which
  the least is taken;
* `Slots.Addressed`, `Slots.Lends` : the slots that are addressed, and which of them lends its item to
  a slot (`Slots.exists_lends`);
* `Slots.Filled`, `Slots.filled_fill_arrange` : the lists with all items at their positions and all
  gaps filled from the lending slots;
* `Predicate.MadeInTurn`, `Predicate.generateItems_run_iff` : the parts of an index group are generated
  one after another, each from the texts that those before it leave;
* `Predicate.generate_indexGroup_filled` : such a list is what comes of every index group.
-/

set_option autoImplicit false

namespace TreePredicate

namespace Slots

variable {α β : Type} {positions : List Int}

/-! ## The size of a list -/

/-- A size of lists that have an item at each position, no two of them in one slot. -/
structure Suits (positions : List Int) (n : Nat) : Prop where
  pos : 1 ≤ n
  reaches : ∀ i ∈ positions, Reaches n i
  injOn : Set.InjOn (fun i : Int => i % n) {i | i ∈ positions}

theorem natCast_slot {n : Nat} (hpos : 1 ≤ n) (i : Int) : (slot n i : Int) = i % n := by
  unfold slot
  exact Int.toNat_of_nonneg (Int.emod_nonneg i (by omega))

theorem pos_of_reaches {n : Nat} {i : Int} (h : Reaches n i) : 1 ≤ n := by
  obtain ⟨hlow, hhigh⟩ := h
  omega

theorem suits_iff (hdistinct : positions.Nodup) (hne : positions ≠ []) (n : Nat) :
    Suits positions n ↔ (∀ i ∈ positions, Reaches n i) ∧ fits positions n = true := by
  have hslot : 1 ≤ n → (fits positions n = true ↔
      Set.InjOn (fun i : Int => i % n) {i | i ∈ positions}) := by
    intro hpos
    rw [fits_iff, List.nodup_map_iff_inj_on hdistinct]
    refine forall₂_congr fun i _ => forall₂_congr fun j _ => ?_
    rw [← Int.natCast_inj, natCast_slot hpos, natCast_slot hpos]
  constructor
  · rintro ⟨hpos, hreaches, hinj⟩
    exact ⟨hreaches, (hslot hpos).mpr hinj⟩
  · rintro ⟨hreaches, hfits⟩
    obtain ⟨i, hi⟩ := List.exists_mem_of_ne_nil positions hne
    have hpos := pos_of_reaches (hreaches i hi)
    exact ⟨hpos, hreaches, (hslot hpos).mp hfits⟩

/-- The size of a list is the least one in which its positions have slots of their own. -/
theorem isLeast_size (hdistinct : positions.Nodup) (hne : positions ≠ []) :
    IsLeast {n | Suits positions n} (size positions) := by
  obtain ⟨hreaches, hfits, hleast⟩ := size_spec hdistinct
  refine ⟨(suits_iff hdistinct hne _).mpr ⟨hreaches, hfits⟩, fun n hn => ?_⟩
  obtain ⟨hreaches', hfits'⟩ := (suits_iff hdistinct hne n).mp hn
  exact hleast n hreaches' hfits'

/-! ## Slots that are addressed -/

/-- A position addresses a slot. -/
def Addressed (positions : List Int) (size n : Nat) : Prop := ∃ i ∈ positions, i % (size : Int) = n

/-- The slot `k` lends its item to the slot `n`: it is the nearest addressed one up to `n`, or else the
first addressed one. -/
def Lends (positions : List Int) (size k n : Nat) : Prop :=
  Addressed positions size k ∧
    (k ≤ n ∧ (∀ m, k < m → m ≤ n → ¬Addressed positions size m) ∨
      n < k ∧ ∀ m < k, ¬Addressed positions size m)

theorem addressed_iff {n m : Nat} (hpos : 1 ≤ n) :
    Addressed positions n m ↔ ∃ i ∈ positions, slot n i = m := by
  unfold Addressed
  refine exists_congr fun i => and_congr_right fun _ => ?_
  rw [← natCast_slot hpos, Int.natCast_inj]

theorem Suits.lt_of_addressed {n m : Nat} (h : Suits positions n) (hm : Addressed positions n m) :
    m < n := by
  obtain ⟨i, hi, rfl⟩ := (addressed_iff h.pos).mp hm
  exact slot_lt (h.reaches i hi)

/-- Every slot has one that lends it an item. -/
theorem exists_lends {n : Nat} (h : Suits positions n) (hne : positions ≠ []) (m : Nat) :
    ∃ k < n, Lends positions n k m := by
  classical
  by_cases hbefore : ∃ k ≤ m, Addressed positions n k
  · obtain ⟨k, hk, haddressed⟩ := hbefore
    have hgreatest := Nat.findGreatest_spec hk haddressed
    refine ⟨_, h.lt_of_addressed hgreatest, hgreatest, .inl ⟨Nat.findGreatest_le m, ?_⟩⟩
    exact fun j hj hjm => Nat.findGreatest_is_greatest hj hjm
  · have hexists : ∃ k, Addressed positions n k := by
      obtain ⟨i, hi⟩ := List.exists_mem_of_ne_nil positions hne
      exact ⟨slot n i, (addressed_iff h.pos).mpr ⟨i, hi, rfl⟩⟩
    have hfirst := Nat.find_spec hexists
    refine ⟨_, h.lt_of_addressed hfirst, hfirst, .inr ⟨?_, fun j hj => Nat.find_min hexists hj⟩⟩
    by_contra hle
    exact hbefore ⟨_, Nat.le_of_not_lt hle, hfirst⟩

/-! ## Filled gaps -/

/-- A list of the least size, with each item at its position, whose gaps are filled from the slots that
lend them an item. -/
structure Filled (positions : List Int) (placed : List (Int × α)) (items : List α) : Prop where
  length_eq : items.length = size positions
  at_eq : ∀ p ∈ placed, atPosition? items p.1 = some p.2
  gap_eq : ∀ k n, n < size positions → Lends positions (size positions) k n → items[n]? = items[k]?

theorem Filled.map (f : α → β) {placed : List (Int × α)} {items : List α}
    (h : Filled positions placed items) :
    Filled positions (placed.map fun p => (p.1, f p.2)) (items.map f) := by
  refine ⟨?_, List.forall_mem_map.mpr fun p hp => ?_, fun k n hn hlends => ?_⟩
  · rw [List.length_map, h.length_eq]
  · rw [atPosition?_map, h.at_eq p hp, Option.map_some]
  · rw [List.getElem?_map, List.getElem?_map, h.gap_eq k n hn hlends]

/-- A slot without an item takes that of the slot before it. -/
theorem getElem?_fillFrom_succ {before : α} {slots : List (Option α)} {n : Nat}
    (h : slots[n + 1]? = some none) :
    (fillFrom before slots)[n + 1]? = (fillFrom before slots)[n]? := by
  induction slots generalizing before n with
  | nil => cases h
  | cons slot rest ih =>
    rw [List.getElem?_cons_succ] at h
    cases n with
    | zero =>
      cases rest with
      | nil => cases h
      | cons next others =>
        cases (Option.some.inj h : next = none)
        cases slot <;> rfl
    | succ n =>
      cases slot with
      | none => exact ih h
      | some item => exact ih h

/-- Up to the first item, slots take what stands before the list. -/
theorem getElem?_fillFrom_lead {before : α} {slots : List (Option α)} {n : Nat}
    (h : ∀ m ≤ n, slots[m]? = some none) : (fillFrom before slots)[n]? = some before := by
  induction n with
  | zero =>
    cases slots with
    | nil => cases h 0 le_rfl
    | cons slot rest =>
      cases (Option.some.inj (h 0 le_rfl) : slot = none)
      rfl
  | succ n ih =>
    rw [getElem?_fillFrom_succ (h (n + 1) le_rfl)]
    exact ih fun m hm => h m (by omega)

theorem findSome?_lead {x : α} {slots : List (Option α)} {n : Nat}
    (h : ∀ m < n, slots[m]? = some none) (hx : slots[n]? = some (some x)) :
    slots.findSome? id = some x := by
  induction n generalizing slots with
  | zero =>
    cases slots with
    | nil => cases hx
    | cons slot rest =>
      cases (Option.some.inj hx : slot = some x)
      rfl
  | succ n ih =>
    cases slots with
    | nil => cases hx
    | cons slot rest =>
      cases (Option.some.inj (h 0 (Nat.succ_pos n)) : slot = none)
      show rest.findSome? id = some x
      exact ih (fun m hm => h (m + 1) (Nat.succ_lt_succ hm)) hx

/-- A gap takes the item of the nearest slot before it that has one. -/
theorem getElem?_fill_gap {x : α} {slots : List (Option α)} {k n : Nat}
    (hk : slots[k]? = some (some x)) (hle : k ≤ n)
    (hgap : ∀ m, k < m → m ≤ n → slots[m]? = some none) : (fill slots)[n]? = some x := by
  induction n, hle using Nat.le_induction with
  | base => exact (getElem?_fill hk).2
  | succ n hle ih =>
    have hstep : (fill slots)[n + 1]? = (fill slots)[n]? := by
      have hlast := hgap (n + 1) (by omega) le_rfl
      unfold fill
      split
      · rfl
      · exact getElem?_fillFrom_succ hlast
    rw [hstep]
    exact ih fun m hkm hm => hgap m hkm (by omega)

/-- A gap before all items takes the first one. -/
theorem getElem?_fill_lead {x : α} {slots : List (Option α)} {k n : Nat}
    (hk : slots[k]? = some (some x)) (hlt : n < k) (hgap : ∀ m < k, slots[m]? = some none) :
    (fill slots)[n]? = some x := by
  unfold fill
  rw [findSome?_lead hgap hk]
  exact getElem?_fillFrom_lead fun m hm => hgap m (by omega)

theorem getElem?_arrange_gap {n m : Nat} {placed : List (Int × α)} (hpos : 1 ≤ n) (hm : m < n)
    (h : ¬Addressed (placed.map Prod.fst) n m) : (arrange n placed)[m]? = some none := by
  have hnone : (placed.find? fun p => slot n p.1 == m) = none := by
    refine List.find?_eq_none.mpr fun p hp heq => h ?_
    exact (addressed_iff hpos).mpr ⟨p.1, List.mem_map.mpr ⟨p, hp, rfl⟩, eq_of_beq heq⟩
  unfold arrange
  rw [List.getElem?_map, List.getElem?_range hm, Option.map_some]
  exact congrArg some (congrArg (Option.map Prod.snd) hnone)

/-- What is made of items at distinct positions is such a list. -/
theorem filled_fill_arrange {placed : List (Int × α)} (hdistinct : (placed.map Prod.fst).Nodup)
    (hne : placed.map Prod.fst ≠ []) :
    Filled (placed.map Prod.fst) placed
      (fill (arrange (size (placed.map Prod.fst)) placed)) := by
  obtain ⟨hsuits, -⟩ := isLeast_size hdistinct hne
  have hfits := ((suits_iff hdistinct hne _).mp hsuits).2
  have hitem : ∀ k, Addressed (placed.map Prod.fst) (size (placed.map Prod.fst)) k →
      ∃ x, (arrange (size (placed.map Prod.fst)) placed)[k]? = some (some x) := by
    intro k hk
    obtain ⟨i, hi, rfl⟩ := (addressed_iff hsuits.pos).mp hk
    obtain ⟨p, hp, rfl⟩ := List.mem_map.mp hi
    exact ⟨p.2, getElem?_arrange hfits hp (hsuits.reaches _ hi)⟩
  refine ⟨?_, fun p hp => atPosition?_fill_arrange hdistinct hp, ?_⟩
  · obtain ⟨k, -, hk, -⟩ := exists_lends hsuits hne 0
    obtain ⟨x, hx⟩ := hitem k hk
    rw [(getElem?_fill hx).1, length_arrange]
  · rintro k n hn ⟨hk, hgap⟩
    obtain ⟨x, hx⟩ := hitem k hk
    have hkn := hsuits.lt_of_addressed hk
    rw [(getElem?_fill hx).2]
    rcases hgap with ⟨hle, hgap⟩ | ⟨hlt, hgap⟩
    · exact getElem?_fill_gap hx hle fun m hkm hm =>
        getElem?_arrange_gap hsuits.pos (by omega) (hgap m hkm hm)
    · exact getElem?_fill_lead hx hlt fun m hm =>
        getElem?_arrange_gap hsuits.pos (by omega) (hgap m hm)

end Slots

/-! ## Index groups -/

namespace Predicate

open Generation Slots

variable {σ : Type}

/-- Fields are generated one after another: each takes its texts from what those before it leave. -/
inductive MadeInTurn (supply : TextSupply σ) :
    σ → List (Int × Predicate) → List (Int × Sketch) → σ → Prop
  | nil (s : σ) : MadeInTurn supply s [] [] s
  | cons {s next last : σ} {position : Int} {p : Predicate} {sketch : Sketch}
      {rest : List (Int × Predicate)} {others : List (Int × Sketch)}
      (first : (p.generate supply).run s = (.ok sketch, next))
      (later : MadeInTurn supply next rest others last) :
      MadeInTurn supply s ((position, p) :: rest) ((position, sketch) :: others) last

theorem MadeInTurn.keys_eq {supply : TextSupply σ} {s last : σ} {fields : List (Int × Predicate)}
    {made : List (Int × Sketch)} (h : MadeInTurn supply s fields made last) :
    made.map Prod.fst = fields.map Prod.fst := by
  induction h with
  | nil => rfl
  | cons _ _ ih => rw [List.map_cons, List.map_cons, ih]

theorem generateItems_run_iff {supply : TextSupply σ} {s last : σ}
    {fields : List (Int × Predicate)} {made : List (Int × Sketch)} :
    (generateItems supply fields).run s = (.ok made, last) ↔
      MadeInTurn supply s fields made last := by
  induction fields generalizing s made with
  | nil =>
    rw [generateItems]
    constructor
    · intro h
      cases h
      exact .nil _
    · intro h
      cases h
      rfl
  | cons field rest ih =>
    obtain ⟨position, p⟩ := field
    rw [generateItems, run_bind]
    constructor
    · intro h
      split at h
      · next sketch next hsketch =>
        rw [run_bind] at h
        split at h
        · next others last' hothers =>
          cases h
          exact .cons hsketch (ih.mp hothers)
        · cases h
      · cases h
    · intro h
      cases h with
      | cons first later =>
        rw [first]
        dsimp only
        rw [run_bind, ih.mpr later]
        rfl

/-- What is made of the fields of an index group. -/
theorem generate_indexGroup_run_iff {supply : TextSupply σ} {s last : σ}
    {fields : List (Int × Predicate)} {sketch : Sketch} :
    ((indexGroup fields).generate supply).run s = (.ok sketch, last) ↔
      ∃ made, MadeInTurn supply s fields made last ∧
        sketch = .list (fill (arrange (size (made.map Prod.fst)) made)) := by
  rw [generate, run_bind]
  constructor
  · intro h
    split at h
    · next made next hmade =>
      cases h
      exact ⟨made, generateItems_run_iff.mp hmade, rfl⟩
    · cases h
  · rintro ⟨made, hmade, rfl⟩
    rw [generateItems_run_iff.mpr hmade]
    rfl

/-- The list of an index group is as short as its positions allow, with a slot of its own for each. It
is returned wherever the fields are made in turn, and each list that is returned has what was made for
a field at the position of that field, and in every other slot the item of the nearest addressed slot
before it, or that of the first addressed one if none is before it. -/
theorem generate_indexGroup_filled {fields : List (Int × Predicate)}
    (hdistinct : Table.Distinct fields) (hne : fields ≠ []) :
    IsLeast {n | Suits (fields.map Prod.fst) n} (size (fields.map Prod.fst)) ∧
    (∀ n, ∃ k < size (fields.map Prod.fst),
      Lends (fields.map Prod.fst) (size (fields.map Prod.fst)) k n) ∧
    ∀ {σ : Type} (supply : TextSupply σ) (s last : σ),
      (∀ made, MadeInTurn supply s fields made last →
        ∃ sketch, ((indexGroup fields).generate supply).run s = (.ok sketch, last)) ∧
      ∀ sketch, ((indexGroup fields).generate supply).run s = (.ok sketch, last) →
        ∃ made items, MadeInTurn supply s fields made last ∧ sketch = .list items ∧
          Filled (fields.map Prod.fst) made items ∧
          sketch.toNode = .list (items.map Sketch.toNode) ∧
          Filled (fields.map Prod.fst) (made.map fun m => (m.1, m.2.toNode))
            (items.map Sketch.toNode) := by
  have hpositions : fields.map Prod.fst ≠ [] := fun h => hne (List.map_eq_nil_iff.mp h)
  have hleast := isLeast_size hdistinct hpositions
  refine ⟨hleast, fun n => exists_lends hleast.1 hpositions n, fun supply s last => ⟨?_, ?_⟩⟩
  · intro made hmade
    exact ⟨_, generate_indexGroup_run_iff.mpr ⟨made, hmade, rfl⟩⟩
  · intro sketch h
    obtain ⟨made, hmade, rfl⟩ := generate_indexGroup_run_iff.mp h
    have hfilled : Filled (fields.map Prod.fst) made
        (fill (arrange (size (made.map Prod.fst)) made)) := by
      have hkeys := hmade.keys_eq
      rw [← hkeys] at hpositions ⊢
      exact filled_fill_arrange (hkeys ▸ hdistinct) hpositions
    exact ⟨made, _, hmade, rfl, hfilled, congrArg Node.list (Sketch.itemNodes_eq_map _),
      hfilled.map Sketch.toNode⟩

/-- Positions from both ends, of which two meet in lists of four items, with gaps before and between
them. -/
def shelf : List (Int × Predicate) := [(3, .text "map"), (-1, .text "key"), (1, .pattern initial)]

theorem generate_indexGroup_filled_shelf :
    IsLeast {n | Suits [3, -1, 1] n} 5 ∧
      ∃ made items, MadeInTurn listed ["b", "a", "c"] shelf made ["c"] ∧
        ((indexGroup shelf).generate listed).run ["b", "a", "c"] = (.ok (.list items), ["c"]) ∧
        Filled [3, -1, 1] made items := by
  have hdistinct : Table.Distinct shelf := by
    unfold Table.Distinct
    decide
  obtain ⟨hleast, -, hruns⟩ := generate_indexGroup_filled hdistinct (List.cons_ne_nil _ _)
  obtain ⟨hreturns, hreturned⟩ := hruns listed ["b", "a", "c"] ["c"]
  obtain ⟨sketch, hrun⟩ := hreturns _ (.cons rfl (.cons rfl (.cons rfl (.nil _))))
  obtain ⟨made, items, hmade, rfl, hfilled, -⟩ := hreturned sketch hrun
  exact ⟨hleast, made, items, hmade, hrun, hfilled⟩

end Predicate

end TreePredicate
