import TreePredicate.Node
import TreePredicate.Proofs.Number.Same
import TreePredicate.Proofs.Table.Related

/-!
# Equal trees

* `Node.induct` : structural induction over trees, in which the nodes inside are known by membership;
* `Node.Level`, `Node.Bisimulation` : trees that no step into them tells apart, by a relation that
  holds again of what is right inside; then a path leads to related trees in both, or nowhere
  (`Bisimulation.rel_resolve?`);
* `Node.Equal` : two well-formed trees that are equal, which is such a relation
  (`Node.bisimulation_equal`).
-/

set_option autoImplicit false

namespace TreePredicate

/-! ## Lists related item by item -/

theorem forall₂_imp_mem {α β : Type} {R S : α → β → Prop} {items : List α} {others : List β}
    (hRS : ∀ x ∈ items, ∀ y ∈ others, R x y → S x y) (h : List.Forall₂ R items others) :
    List.Forall₂ S items others := by
  induction h with
  | nil => exact .nil
  | cons hxy _ ih =>
    refine .cons (hRS _ List.mem_cons_self _ List.mem_cons_self hxy) (ih fun x hx y hy => ?_)
    exact hRS x (List.mem_cons_of_mem _ hx) y (List.mem_cons_of_mem _ hy)

theorem forall_mem_right {α β : Type} {R : α → β → Prop} {P : β → Prop} {xs : List α} {ys : List β}
    (h : List.Forall₂ R xs ys) (himp : ∀ x ∈ xs, ∀ y, R x y → P y) : ∀ y ∈ ys, P y := by
  induction h with
  | nil => simp
  | cons hxy _ ih =>
    rw [List.forall_mem_cons] at himp ⊢
    exact ⟨himp.1 _ hxy, ih himp.2⟩

theorem exists_mem_right {α β : Type} {R : α → β → Prop} {xs : List α} {ys : List β}
    (h : List.Forall₂ R xs ys) {x : α} (hx : x ∈ xs) : ∃ y ∈ ys, R x y :=
  forall_mem_right (P := fun x => ∃ y ∈ ys, R x y) h.flip (fun y hy _ hxy => ⟨y, hy, hxy⟩) x hx

theorem rel_getElem? {α β : Type} {R : α → β → Prop} {items : List α} {others : List β}
    (h : List.Forall₂ R items others) (i : Nat) : Option.Rel R items[i]? others[i]? := by
  induction h generalizing i with
  | nil => exact .none
  | cons hx _ ih =>
    cases i with
    | zero => exact .some hx
    | succ i => exact ih i

theorem rel_atPosition? {α β : Type} {R : α → β → Prop} {items : List α} {others : List β}
    (h : List.Forall₂ R items others) (position : Int) :
    Option.Rel R (atPosition? items position) (atPosition? others position) := by
  rw [atPosition?, atPosition?, h.length_eq]
  split
  · exact rel_getElem? h _
  · split
    · exact rel_getElem? h _
    · exact .none

theorem rel_bind {α β : Type} {R S : α → β → Prop} {x : Option α} {y : Option β}
    {f : α → Option α} {g : β → Option β} (h : Option.Rel R x y)
    (hfg : ∀ a b, R a b → Option.Rel S (f a) (g b)) : Option.Rel S (x.bind f) (y.bind g) := by
  cases h with
  | none => exact .none
  | some hab => exact hfg _ _ hab

namespace Node

/-! ## Induction over trees -/

theorem sizeOf_snd_lt {entries : List (String × Node)} {e : String × Node} (h : e ∈ entries) :
    sizeOf e.2 < sizeOf entries := by
  have hlt := List.sizeOf_lt_of_mem h
  obtain ⟨name, node⟩ := e
  rw [Prod.mk.sizeOf_spec] at hlt
  show sizeOf node < sizeOf entries
  omega

/-- Induction over trees. The hypotheses of a case cover the nodes inside by membership. -/
@[induction_eliminator]
theorem induct {motive : Node → Prop}
    (compound : ∀ entries, (∀ e ∈ entries, motive e.2) → motive (.compound entries))
    (list : ∀ items, (∀ node ∈ items, motive node) → motive (.list items))
    (number : ∀ quantity, motive (.number quantity))
    (text : ∀ value, motive (.text value)) : ∀ node, motive node
  | .compound entries =>
    compound entries fun e he => by
      have := sizeOf_snd_lt he
      exact induct compound list number text e.2
  | .list items =>
    list items fun node hnode => by
      have := List.sizeOf_lt_of_mem hnode
      exact induct compound list number text node
  | .number quantity => number quantity
  | .text value => text value
termination_by node => sizeOf node
decreasing_by all_goals (simp only [Node.compound.sizeOf_spec, Node.list.sizeOf_spec]; omega)

/-! ## Equality and well-formedness by members -/

theorem entriesWellFormed_iff (entries : List (String × Node)) :
    EntriesWellFormed entries ↔ ∀ e ∈ entries, e.2.WellFormed := by
  induction entries with
  | nil => simp [EntriesWellFormed]
  | cons e rest ih => rw [EntriesWellFormed, ih, List.forall_mem_cons]

theorem itemsWellFormed_iff (items : List Node) :
    ItemsWellFormed items ↔ ∀ node ∈ items, node.WellFormed := by
  induction items with
  | nil => simp [ItemsWellFormed]
  | cons node rest ih => rw [ItemsWellFormed, ih, List.forall_mem_cons]

theorem sameEntries_iff (entries others : List (String × Node)) :
    sameEntries entries others = true ↔
      ∀ e ∈ entries, ∃ other, Table.find? e.1 others = some other ∧ e.2.same other = true := by
  induction entries with
  | nil => simp [sameEntries]
  | cons e rest ih =>
    obtain ⟨name, node⟩ := e
    rw [sameEntries, Bool.and_eq_true, ih, List.forall_mem_cons]
    refine and_congr ?_ Iff.rfl
    cases h : Table.find? name others with
    | none => simp
    | some other => simp

theorem sameItems_iff (items others : List Node) :
    sameItems items others = true ↔ List.Forall₂ (fun x y => x.same y = true) items others := by
  induction items generalizing others with
  | nil => cases others <;> simp [sameItems]
  | cons node rest ih =>
    cases others with
    | nil => simp [sameItems]
    | cons other others => rw [sameItems, Bool.and_eq_true, ih, List.forall₂_cons]

/-! ## Trees that no step tells apart -/

/-- Two trees of one kind: compounds or lists with related trees right inside, numbers in one place,
or one text. -/
inductive Level (R : Node → Node → Prop) : Node → Node → Prop
  | compound {entries others : List (String × Node)}
      (h : ∀ name, Option.Rel R (Table.find? name entries) (Table.find? name others)) :
      Level R (.compound entries) (.compound others)
  | list {items others : List Node} (h : List.Forall₂ R items others) :
      Level R (.list items) (.list others)
  | number {quantity other : Quantity} (h : quantity.value.point? = other.value.point?) :
      Level R (.number quantity) (.number other)
  | text (value : String) : Level R (.text value) (.text value)

/-- Related trees are of one kind, and what is right inside them is related again. -/
def Bisimulation (R : Node → Node → Prop) : Prop := ∀ node other, R node other → Level R node other

section Bisimulation

variable {R : Node → Node → Prop} {node other : Node}

theorem Level.compound_iff (h : Level R node other) :
    (∃ entries, node = .compound entries) ↔ ∃ entries, other = .compound entries := by
  cases h <;> simp

theorem Level.list_iff (h : Level R node other) :
    (∃ items, node = .list items) ↔ ∃ items, other = .list items := by
  cases h <;> simp

theorem Level.rel_step? (h : Level R node other) (step : Segment) :
    Option.Rel R (node.step? step) (other.step? step) := by
  cases h with
  | compound h =>
    cases step with
    | key name => exact h name
    | index position => exact .none
  | list h =>
    cases step with
    | key name => exact .none
    | index position => exact rel_atPosition? h position
  | number => exact .none
  | text => exact .none

/-- A path leads to related trees in related trees, or nowhere in both. -/
theorem Bisimulation.rel_resolve? (hR : Bisimulation R) (h : R node other) (path : Path) :
    Option.Rel R (node.resolve? path) (other.resolve? path) := by
  induction path generalizing node other with
  | nil => exact .some h
  | cons step rest ih => exact rel_bind ((hR _ _ h).rel_step? step) fun _ _ hxy => ih hxy

end Bisimulation

/-! ## Equal trees -/

/-- Two well-formed trees that are equal. -/
structure Equal (node other : Node) : Prop where
  left : node.WellFormed
  right : other.WellFormed
  same : node.same other = true

theorem Equal.compound {entries others : List (String × Node)}
    (h : Equal (.compound entries) (.compound others)) (name : String) :
    Option.Rel Equal (Table.find? name entries) (Table.find? name others) := by
  obtain ⟨⟨hdistinct, hentries⟩, ⟨-, hothers⟩, hsame⟩ := h
  rw [Node.same, Bool.and_eq_true, beq_iff_eq, sameEntries_iff] at hsame
  rw [entriesWellFormed_iff] at hentries hothers
  refine Table.rel_find? hdistinct (Nat.le_of_eq hsame.1.symm) (fun e he => ?_) name
  obtain ⟨other, hfind, heq⟩ := hsame.2 e he
  exact ⟨other, hfind, hentries e he, hothers _ (Table.mem_of_find? hfind), heq⟩

theorem Equal.list {items others : List Node} (h : Equal (.list items) (.list others)) :
    List.Forall₂ Equal items others := by
  obtain ⟨hitems, hothers, hsame⟩ := h
  rw [WellFormed, itemsWellFormed_iff] at hitems hothers
  rw [Node.same, sameItems_iff] at hsame
  exact forall₂_imp_mem (fun x hx y hy hxy => ⟨hitems x hx, hothers y hy, hxy⟩) hsame

theorem bisimulation_equal : Bisimulation Equal := by
  intro node other h
  have hsame := h.same
  cases node <;> cases other <;> first | cases hsame | skip
  · exact .compound h.compound
  · exact .list h.list
  · exact .number (Number.point?_eq_of_same hsame)
  · cases eq_of_beq hsame
    exact .text _

end Node

end TreePredicate
