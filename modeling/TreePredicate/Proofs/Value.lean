import TreePredicate.Proofs.Number.Finite
import TreePredicate.Proofs.Predicate.Congruence
import TreePredicate.Proofs.Table
import TreePredicate.Value

/-!
# Plain values and back

A plain value of a tree drops the widths of its numbers, and a tree of a plain value has inferred
ones. Nothing else is lost.

* `Node.Alike` : trees of one plain value; they are equal (`Alike.same`) and no predicate tells them
  apart (`Predicate.holds_alike`);
* `Value.exists_toNode_ofNode` : the plain value of a tree has a tree, with that plain value;
* `Value.plain` : a value with its flags as integers, its tuples as lists and its finished trees as
  plain values; `ofNode_of_toNode` : the plain value of its tree;
* `Value.toNode_ofNode_spec` : both together.
-/

set_option autoImplicit false

namespace TreePredicate

-- Unfolded, these two are powers that no step may write out.
attribute [local irreducible] unitsPerOne unitsBound

/-! ## Trees of one plain value -/

namespace Value

theorem ofItems_eq_map (items : List Node) : ofItems items = items.map ofNode := by
  induction items with
  | nil => rfl
  | cons node rest ih => rw [ofItems, ih, List.map_cons]

theorem ofEntries_eq_map (entries : List (String × Node)) :
    ofEntries entries = entries.map fun e => (.key e.1, ofNode e.2) := by
  induction entries with
  | nil => rfl
  | cons e rest ih => rw [ofEntries, ih, List.map_cons]

end Value

namespace Node

/-- Two trees have one plain value. -/
def Alike (node other : Node) : Prop := Value.ofNode node = Value.ofNode other

theorem Alike.list {items others : List Node} (h : Alike (.list items) (.list others)) :
    List.Forall₂ Alike items others := by
  unfold Alike Value.ofNode at h
  rw [Value.list.injEq, Value.ofItems_eq_map, Value.ofItems_eq_map] at h
  rw [← List.forall₂_eq_eq_eq, List.forall₂_map_left_iff, List.forall₂_map_right_iff] at h
  exact h

theorem Alike.compound {entries others : List (String × Node)}
    (h : Alike (.compound entries) (.compound others)) :
    List.Forall₂ (fun e f => e.1 = f.1 ∧ Alike e.2 f.2) entries others := by
  unfold Alike Value.ofNode at h
  rw [Value.record.injEq, Value.ofEntries_eq_map, Value.ofEntries_eq_map] at h
  rw [← List.forall₂_eq_eq_eq, List.forall₂_map_left_iff, List.forall₂_map_right_iff] at h
  refine h.imp fun e f hef => ?_
  rw [Prod.mk.injEq, Segment.key.injEq] at hef
  exact hef

theorem Alike.find? {entries others : List (String × Node)}
    (h : List.Forall₂ (fun e f => e.1 = f.1 ∧ Alike e.2 f.2) entries others) (name : String) :
    Option.Rel Alike (Table.find? name entries) (Table.find? name others) := by
  induction h with
  | nil => exact .none
  | @cons e f _ _ hef _ ih =>
    obtain ⟨key, node⟩ := e
    obtain ⟨key', other⟩ := f
    obtain ⟨rfl, halike⟩ := hef
    by_cases hkey : key = name
    · subst hkey
      rw [Table.find?_cons_self, Table.find?_cons_self]
      exact .some halike
    · rw [Table.find?_cons_of_ne hkey, Table.find?_cons_of_ne hkey]
      exact ih

theorem bisimulation_alike : Bisimulation Alike := by
  intro node other h
  cases node <;> cases other <;> first | (cases h; done) | skip
  · exact .compound (Alike.find? h.compound)
  · exact .list h.list
  · unfold Alike Value.ofNode at h
    rw [Value.number.injEq] at h
    exact .number (congrArg Number.point? h)
  · unfold Alike Value.ofNode at h
    cases h
    exact .text _

theorem Alike.wellFormed {node other : Node} (h : Alike node other) (hnode : node.WellFormed) :
    other.WellFormed := by
  induction node generalizing other with
  | compound entries ih =>
    cases other with
    | compound others =>
      have halike := h.compound
      rw [WellFormed, entriesWellFormed_iff] at hnode ⊢
      constructor
      · unfold Table.Distinct
        rw [← Table.keys_eq_of_forall₂ (fun _ _ hef => hef.1) halike]
        exact hnode.1
      · exact forall_mem_right halike fun e he f hef => ih e he hef.2 (hnode.2 e he)
    | _ => cases h
  | list items ih =>
    cases other with
    | list others =>
      rw [WellFormed, itemsWellFormed_iff] at hnode ⊢
      exact forall_mem_right h.list fun x hx y hxy => ih x hx hxy (hnode x hx)
    | _ => cases h
  | number quantity => cases other <;> trivial
  | text value => cases other <;> trivial

/-- Trees of one plain value are equal. -/
theorem Alike.same {node other : Node} (h : Alike node other) (hnode : node.WellFormed) :
    node.same other = true := by
  induction node generalizing other with
  | compound entries ih =>
    cases other with
    | compound others =>
      have halike := h.compound
      have hother := (h.wellFormed hnode).1
      rw [WellFormed, entriesWellFormed_iff] at hnode
      rw [Node.same, Bool.and_eq_true, beq_iff_eq, sameEntries_iff]
      refine ⟨halike.length_eq, fun e he => ?_⟩
      have hfind := Alike.find? halike e.1
      rw [Table.find?_eq_of_mem hnode.1 he] at hfind
      cases hfound : Table.find? e.1 others with
      | none =>
        rw [hfound] at hfind
        cases hfind
      | some found =>
        rw [hfound] at hfind
        cases hfind with
        | some hef => exact ⟨found, rfl, ih e he hef (hnode.2 e he)⟩
    | _ => cases h
  | list items ih =>
    cases other with
    | list others =>
      rw [WellFormed, itemsWellFormed_iff] at hnode
      rw [Node.same, sameItems_iff]
      exact forall₂_imp_mem (fun x hx y _ hxy => ih x hx hxy (hnode x hx)) h.list
    | _ => cases h
  | number quantity =>
    cases other with
    | number quantity' =>
      unfold Alike Value.ofNode at h
      rw [Value.number.injEq] at h
      rw [Node.same, Quantity.same, ← h]
      exact quantity.same_self
    | _ => cases h
  | text value =>
    cases other with
    | text value' =>
      unfold Alike Value.ofNode at h
      rw [Value.text.injEq] at h
      rw [Node.same, h, beq_self_eq_true]
    | _ => cases h

end Node

/-- No predicate tells trees of one plain value apart. -/
theorem Predicate.holds_alike (p : Predicate) {node other : Node} (h : node.Alike other) :
    p.holds node = p.holds other :=
  holds_bisimilar Node.bisimulation_alike p h

/-! ## The tree of a plain value of a tree -/

theorem Table.ofList_eq_self {κ α : Type} [DecidableEq κ] {table : Table κ α} (h : Distinct table) :
    ofList table = table := by
  have hstep : ∀ rest before : Table κ α, Distinct (before ++ rest) →
      rest.foldl (fun table entry => insert entry.1 entry.2 table) before = before ++ rest := by
    intro rest
    induction rest with
    | nil => exact fun before _ => (List.append_nil before).symm
    | cons e others ih =>
      intro before hdistinct
      have hnew : e.1 ∉ before.map Prod.fst := by
        unfold Distinct at hdistinct
        rw [List.map_append, List.map_cons] at hdistinct
        exact not_mem_of_nodup hdistinct
      rw [List.foldl_cons, insert_of_find?_eq_none (find?_eq_none_of_not_mem hnew)]
      rw [List.append_cons before e others] at hdistinct ⊢
      exact ih _ hdistinct
  exact hstep table [] h

namespace Value

theorem exists_itemNodes {items : List Node}
    (h : ∀ node ∈ items, ∃ back, (ofNode node).toNode = .ok back ∧ node.Alike back) :
    ∃ backs, itemNodes (ofItems items) = .ok backs ∧ ofItems items = ofItems backs := by
  induction items with
  | nil => exact ⟨[], rfl, rfl⟩
  | cons node rest ih =>
    rw [List.forall_mem_cons] at h
    obtain ⟨⟨back, hback, halike⟩, hrest⟩ := h
    obtain ⟨backs, hbacks, heq⟩ := ih hrest
    refine ⟨back :: backs, ?_, ?_⟩
    · rw [ofItems, itemNodes, hback, hbacks]
      rfl
    · rw [ofItems, ofItems, heq, halike]

theorem exists_entryNodes {entries : List (String × Node)}
    (h : ∀ e ∈ entries, ∃ back, (ofNode e.2).toNode = .ok back ∧ e.2.Alike back) :
    ∃ backs, entryNodes (ofEntries entries) = .ok backs ∧ ofEntries entries = ofEntries backs := by
  induction entries with
  | nil => exact ⟨[], rfl, rfl⟩
  | cons e rest ih =>
    obtain ⟨name, node⟩ := e
    rw [List.forall_mem_cons] at h
    obtain ⟨⟨back, hback, halike⟩, hrest⟩ := h
    obtain ⟨backs, hbacks, heq⟩ := ih hrest
    refine ⟨(name, back) :: backs, ?_, ?_⟩
    · rw [ofEntries, entryNodes, hback, hbacks]
      rfl
    · rw [ofEntries, ofEntries, heq, halike]

/-- The plain value of a tree has a tree, and that has the same plain value. -/
theorem exists_toNode_ofNode (node : Node) (h : node.WellFormed) :
    ∃ back, (ofNode node).toNode = .ok back ∧ node.Alike back := by
  induction node with
  | compound entries ih =>
    have hentries := (Node.entriesWellFormed_iff entries).mp h.2
    obtain ⟨backs, hbacks, heq⟩ := exists_entryNodes fun e he => ih e he (hentries e he)
    have halike : (Node.compound entries).Alike (.compound backs) := congrArg record heq
    refine ⟨.compound backs, ?_, halike⟩
    have hdistinct : Table.Distinct backs := (halike.wellFormed h).1
    rw [ofNode, toNode, hbacks]
    show Except.ok (Node.ofEntries backs) = _
    rw [Node.ofEntries, Table.ofList_eq_self hdistinct]
  | list items ih =>
    have hitems := (Node.itemsWellFormed_iff items).mp h
    obtain ⟨backs, hbacks, heq⟩ := exists_itemNodes fun node hnode => ih node hnode (hitems node hnode)
    refine ⟨.list backs, ?_, congrArg list heq⟩
    rw [ofNode, toNode, hbacks]
    rfl
  | number given =>
    obtain ⟨inferred, hinferred, hvalue⟩ := given.exists_inferred
    refine ⟨.number inferred, ?_, congrArg number hvalue.symm⟩
    rw [ofNode, toNode, quantity, hinferred]
    rfl
  | text value => exact ⟨.text value, rfl, rfl⟩

/-! ## The plain value of the tree of a value -/

mutual

/-- No record in a value has a key twice. -/
def WellFormed : Value → Prop
  | .list items => ItemsWellFormed items
  | .tuple items => ItemsWellFormed items
  | .record entries => Table.Distinct entries ∧ EntriesWellFormed entries
  | _ => True

/-- The values of a list are well formed. -/
def ItemsWellFormed : List Value → Prop
  | [] => True
  | value :: rest => WellFormed value ∧ ItemsWellFormed rest

/-- The values of a record are well formed. -/
def EntriesWellFormed : List (Segment × Value) → Prop
  | [] => True
  | (_, value) :: rest => WellFormed value ∧ EntriesWellFormed rest

end

mutual

/-- A value with its flags as integers, its tuples as lists and its finished trees as plain values. -/
def plain : Value → Value
  | .nothing => .nothing
  | .flag value => .number (.int (if value then 1 else 0))
  | .text value => .text value
  | .number value => .number value
  | .list items => .list (plainItems items)
  | .tuple items => .list (plainItems items)
  | .record entries => .record (plainEntries entries)
  | .finished tree => ofNode tree

/-- The values of a list, made plain. -/
def plainItems : List Value → List Value
  | [] => []
  | value :: rest => plain value :: plainItems rest

/-- The values of a record, made plain. -/
def plainEntries : List (Segment × Value) → List (Segment × Value)
  | [] => []
  | (key, value) :: rest => (key, plain value) :: plainEntries rest

end

theorem value_of_quantity {width? : Option Width} {given : Number} {q : Quantity}
    (h : quantity width? given = .ok q) : q.value = (width?.getD (Width.infer given)).convert given := by
  unfold quantity Quantity.ofNumber at h
  cases hmade : Quantity.make (width?.getD (Width.infer given)) given with
  | error cause =>
    rw [hmade] at h
    cases h
  | ok made =>
    rw [hmade] at h
    cases h
    exact Quantity.value_of_make hmade

/-- The keys of the trees of a record are its own. -/
theorem keys_of_entryNodes {entries : List (Segment × Value)} {nodes : List (String × Node)}
    (h : entryNodes entries = .ok nodes) :
    entries.map Prod.fst = nodes.map fun e => .key e.1 := by
  induction entries generalizing nodes with
  | nil =>
    cases h
    rfl
  | cons e rest ih =>
    obtain ⟨key, value⟩ := e
    cases key with
    | index position => cases h
    | key name =>
      rw [entryNodes] at h
      obtain ⟨node, -, h⟩ := ok_of_bind h
      obtain ⟨others, hothers, h⟩ := ok_of_bind h
      cases h
      rw [List.map_cons, List.map_cons, ih hothers]

mutual

/-- The plain value of the tree of a value. -/
theorem ofNode_of_toNode : ∀ {value : Value}, value.WellFormed → ∀ {node : Node},
    value.toNode = .ok node → ofNode node = value.plain
  | .nothing, _, _, h => by cases h
  | .flag value, _, _, h => by
    rw [toNode] at h
    obtain ⟨q, hq, h⟩ := ok_of_bind h
    cases h
    rw [ofNode, plain, value_of_quantity hq]
    rfl
  | .text value, _, _, h => by
    cases h
    rfl
  | .number value, _, _, h => by
    rw [toNode] at h
    obtain ⟨q, hq, h⟩ := ok_of_bind h
    cases h
    rw [ofNode, plain, value_of_quantity hq, Option.getD_none, Width.convert_infer]
  | .list items, hwell, _, h => by
    rw [toNode] at h
    obtain ⟨nodes, hnodes, h⟩ := ok_of_bind h
    cases h
    rw [ofNode, plain, ofItems_of_itemNodes hwell hnodes]
  | .tuple items, hwell, _, h => by
    rw [toNode] at h
    obtain ⟨nodes, hnodes, h⟩ := ok_of_bind h
    cases h
    rw [ofNode, plain, ofItems_of_itemNodes hwell hnodes]
  | .record entries, hwell, _, h => by
    rw [toNode] at h
    obtain ⟨nodes, hnodes, h⟩ := ok_of_bind h
    cases h
    have hdistinct : Table.Distinct nodes := by
      have hkeys := hwell.1
      unfold Table.Distinct at hkeys
      rw [keys_of_entryNodes hnodes] at hkeys
      exact List.Nodup.of_map Segment.key (by rwa [List.map_map])
    rw [Node.ofEntries, Table.ofList_eq_self hdistinct, ofNode, plain,
      ofEntries_of_entryNodes hwell.2 hnodes]
  | .finished tree, _, _, h => by
    cases h
    rfl

theorem ofItems_of_itemNodes : ∀ {items : List Value}, ItemsWellFormed items →
    ∀ {nodes : List Node}, itemNodes items = .ok nodes → ofItems nodes = plainItems items
  | [], _, _, h => by
    cases h
    rfl
  | value :: rest, hwell, _, h => by
    rw [itemNodes] at h
    obtain ⟨node, hnode, h⟩ := ok_of_bind h
    obtain ⟨nodes, hnodes, h⟩ := ok_of_bind h
    cases h
    rw [ofItems, plainItems, ofNode_of_toNode hwell.1 hnode, ofItems_of_itemNodes hwell.2 hnodes]

theorem ofEntries_of_entryNodes : ∀ {entries : List (Segment × Value)}, EntriesWellFormed entries →
    ∀ {nodes : List (String × Node)}, entryNodes entries = .ok nodes →
      ofEntries nodes = plainEntries entries
  | [], _, _, h => by
    cases h
    rfl
  | (.index _, _) :: _, _, _, h => by cases h
  | (.key name, value) :: rest, hwell, _, h => by
    rw [entryNodes] at h
    obtain ⟨node, hnode, h⟩ := ok_of_bind h
    obtain ⟨nodes, hnodes, h⟩ := ok_of_bind h
    cases h
    rw [ofEntries, plainEntries, ofNode_of_toNode hwell.1 hnode,
      ofEntries_of_entryNodes hwell.2 hnodes]

end

/-- The plain value of a tree has a tree, which is equal to it and which no predicate tells from it;
and a value that has a tree is, with its flags as integers, its tuples as lists and its finished
trees as plain values, the plain value of that tree. -/
theorem toNode_ofNode_spec :
    (∀ node : Node, node.WellFormed → ∃ back, (ofNode node).toNode = .ok back ∧ back.WellFormed ∧
      node.same back = true ∧ ∀ p : Predicate, p.evaluate back = p.evaluate node) ∧
    ∀ value : Value, value.WellFormed → ∀ node, value.toNode = .ok node →
      ofNode node = value.plain := by
  constructor
  · intro node hnode
    obtain ⟨back, hback, halike⟩ := exists_toNode_ofNode node hnode
    refine ⟨back, hback, halike.wellFormed hnode, halike.same hnode, fun p => ?_⟩
    rw [Predicate.evaluate_eq, Predicate.evaluate_eq, p.holds_alike halike]
  · exact fun value hvalue node hnode => ofNode_of_toNode hvalue hnode

/-- Two, as a byte. -/
def twoByte : Quantity :=
  ⟨.byte, .int 2, .int 2, Width.coerce_eq_ok.mpr ⟨by decide +kernel, rfl⟩⟩

/-- A tree whose numbers have other widths than their values would be given. -/
def crate : Node := .compound [("count", .number twoByte), ("sizes", .list [.number twoByte])]

/-- A value with a flag, a tuple and a finished tree. -/
def parcel : Value :=
  .record [(.key "open", .flag true), (.key "parts", .tuple [.number (.int 2), .finished crate])]

theorem exists_toNode_parcel : ∃ node, parcel.toNode = .ok node := by
  obtain ⟨flag, hflag, -⟩ :=
    Quantity.exists_make (by decide +kernel : Width.byte.holds (.int 1) = true)
  obtain ⟨two, htwo, -⟩ :=
    Quantity.exists_make (by decide +kernel : Width.int.holds (.int 2) = true)
  have hinfer : Width.infer (.int 2) = .int := by decide +kernel
  simp [parcel, toNode, entryNodes, itemNodes, quantity, Quantity.ofNumber, hinfer, hflag, htwo,
    Except.mapError, bind, Except.bind, pure, Except.pure]

theorem toNode_ofNode_spec_parcel :
    (∃ back, (ofNode crate).toNode = .ok back ∧ back.WellFormed ∧ crate.same back = true ∧
      ∀ p : Predicate, p.evaluate back = p.evaluate crate) ∧
    ∃ node, parcel.toNode = .ok node ∧ ofNode node = parcel.plain := by
  constructor
  · refine toNode_ofNode_spec.1 crate ?_
    simp [crate, Node.WellFormed, Node.EntriesWellFormed, Node.ItemsWellFormed, Table.Distinct]
  · obtain ⟨node, hnode⟩ := exists_toNode_parcel
    refine ⟨node, hnode, toNode_ofNode_spec.2 parcel ?_ node hnode⟩
    simp [parcel, WellFormed, EntriesWellFormed, ItemsWellFormed, Table.Distinct]

end Value

end TreePredicate
