import TreePredicate.Proofs.Assignment.Pairing
import TreePredicate.Proofs.Generation.Breakdown
import TreePredicate.Proofs.Interval
import TreePredicate.Proofs.Node.Same
import TreePredicate.Proofs.Predicate.Regular

/-!
# Generation is as complete as its leaves

A generation searches for numbers and for texts, and both searches may fail. Nothing else does: if
each search that is made on the way fails only where there is nothing to be found, then a tree is
made for every predicate without negated fields that can be satisfied, and the others are refused.

* `Predicate.Satisfiable` : some tree satisfies a predicate; `satisfiable_group`,
  `satisfiable_indexGroup`, `satisfiable_any`, `satisfiable_all` : then so do trees for its members;
* `LeavesSettle` : the numbers and patterns for which a generation asks are answered rightly;
* `Generation.Settles` : something is made, or it is refused and cannot be; `settles_bind`,
  `settles_generateElements`, `settles_generateAny`, `settles_generate` : kept by each construct and
  then, by induction on the predicate, by a generation;
* `wellFormed_of_yields` : a tree that is made names no node twice;
* `generate_iff_satisfiable` : so a tree is made exactly if there is one.
-/

set_option autoImplicit false

namespace TreePredicate

/-! ## Trees inside well-formed trees -/

theorem mem_of_atPosition? {α : Type} {items : List α} {position : Int} {x : α}
    (h : atPosition? items position = some x) : x ∈ items := by
  unfold atPosition? at h
  split at h
  · exact List.mem_of_getElem? h
  · split at h
    · exact List.mem_of_getElem? h
    · cases h

namespace Node

theorem wellFormed_compound (entries : List (String × Node)) :
    (Node.compound entries).WellFormed ↔
      Table.Distinct entries ∧ ∀ e ∈ entries, e.2.WellFormed := by
  rw [WellFormed, entriesWellFormed_iff]

theorem wellFormed_list (items : List Node) :
    (Node.list items).WellFormed ↔ ∀ node ∈ items, node.WellFormed := by
  rw [WellFormed, itemsWellFormed_iff]

theorem WellFormed.step? {node inner : Node} {step : Segment} (h : node.WellFormed)
    (hstep : node.step? step = some inner) : inner.WellFormed := by
  cases node with
  | compound entries =>
    cases step with
    | key name => exact ((wellFormed_compound entries).mp h).2 _ (Table.mem_of_find? hstep)
    | index position => cases hstep
  | list items =>
    cases step with
    | key name => cases hstep
    | index position => exact (wellFormed_list items).mp h _ (mem_of_atPosition? hstep)
  | number quantity => cases hstep
  | text value => cases hstep

end Node

namespace Slots

variable {α : Type}

theorem mem_fillFrom {before x : α} {slots : List (Option α)} (h : x ∈ fillFrom before slots) :
    x = before ∨ some x ∈ slots := by
  induction slots generalizing before with
  | nil => cases h
  | cons slot rest ih =>
    cases slot with
    | none =>
      rcases List.mem_cons.mp h with rfl | h
      · exact .inl rfl
      · exact (ih h).imp_right (List.mem_cons_of_mem _)
    | some y =>
      refine .inr (List.mem_cons.mpr ?_)
      rcases List.mem_cons.mp h with rfl | h
      · exact .inl rfl
      · exact (ih h).imp_left (congrArg some)

/-- What stands in a list made of items at positions is one of them. -/
theorem mem_fill_arrange {n : Nat} {items : List (Int × α)} {x : α}
    (h : x ∈ fill (arrange n items)) : ∃ item ∈ items, item.2 = x := by
  have hslot : some x ∈ arrange n items := by
    unfold fill at h
    split at h
    · cases h
    · next first hfirst =>
      rcases mem_fillFrom h with rfl | hmem
      · obtain ⟨slot, hmem, hslot⟩ := List.exists_of_findSome?_eq_some hfirst
        exact hslot ▸ hmem
      · exact hmem
  obtain ⟨position, -, hfound⟩ := List.mem_map.mp hslot
  obtain ⟨item, hitem, rfl⟩ := Option.map_eq_some_iff.mp hfound
  exact ⟨item, List.mem_of_find?_eq_some hitem, rfl⟩

end Slots

/-! ## What a quantifier asks of its items -/

namespace Quantifier

variable {α : Type} {tests : List (α → Bool)} {items : List α}

theorem exists_of_run (h : run tests items = true) {test : α → Bool} (htest : test ∈ tests) :
    ∃ x ∈ items, test x = true := by
  induction tests generalizing items with
  | nil => cases htest
  | cons first rest ih =>
    cases items with
    | nil => cases h
    | cons x others =>
      rw [run, Bool.and_eq_true] at h
      rcases List.mem_cons.mp htest with rfl | hrest
      · exact ⟨x, List.mem_cons_self, h.1⟩
      · obtain ⟨y, hy, hholds⟩ := ih h.2 hrest
        exact ⟨y, List.mem_cons_of_mem x hy, hholds⟩

theorem exists_of_run_drop {n : Nat} (h : run tests (items.drop n) = true) {test : α → Bool}
    (htest : test ∈ tests) : ∃ x ∈ items, test x = true := by
  obtain ⟨x, hx, hholds⟩ := exists_of_run h htest
  exact ⟨x, List.mem_of_mem_drop hx, hholds⟩

/-- Each test is passed by some item, if it is neither enough that the items be few nor that some
test be passed. -/
theorem exists_of_holds {quantifier : Quantifier} (hsubset : quantifier ≠ .subset)
    (hany : quantifier ≠ .any) (h : quantifier.holds tests items = true) {test : α → Bool}
    (htest : test ∈ tests) : ∃ x ∈ items, test x = true := by
  cases quantifier with
  | exact =>
    rw [holds, Bool.and_eq_true] at h
    exact exists_of_run h.2 htest
  | any => exact absurd rfl hany
  | subset => exact absurd rfl hsubset
  | superset =>
    obtain ⟨g, -, hholds⟩ := (holds_superset_iff tests items).mp h
    obtain ⟨j, rfl⟩ := List.get_of_mem htest
    exact ⟨items.get (g j), List.get_mem items (g j), hholds j⟩
  | startsWith =>
    rw [holds, Bool.and_eq_true] at h
    exact exists_of_run h.2 htest
  | endsWith =>
    rw [holds, Bool.and_eq_true] at h
    exact exists_of_run_drop h.2 htest
  | containsSequence =>
    rw [holds, List.any_eq_true] at h
    obtain ⟨start, -, hrun⟩ := h
    exact exists_of_run_drop hrun htest

/-- If there are tests, some item passes one of them. -/
theorem exists_of_holds_any (h : Quantifier.any.holds tests items = true) :
    tests = [] ∨ ∃ test ∈ tests, ∃ x ∈ items, test x = true := by
  unfold holds at h
  dsimp only at h
  split at h
  · next hempty => exact .inl (List.isEmpty_iff.mp hempty)
  · obtain ⟨x, hx, hany⟩ := List.any_eq_true.mp h
    obtain ⟨test, htest, hholds⟩ := List.any_eq_true.mp hany
    exact .inr ⟨test, htest, x, hx, hholds⟩

end Quantifier

namespace Predicate

/-! ## Predicates that can be satisfied -/

/-- Some tree satisfies a predicate. -/
def Satisfiable (p : Predicate) : Prop :=
  ∃ node : Node, node.WellFormed ∧ p.evaluate node = .ok true

theorem satisfiable_iff {p : Predicate} :
    p.Satisfiable ↔ ∃ node : Node, node.WellFormed ∧ p.holds node = true := by
  unfold Satisfiable
  simp only [evaluate_eq, Except.ok.injEq]

section Members

variable {fields : List (String × Predicate)} {items : List (Int × Predicate)}
  {negated : List (Path × Predicate)} {quantifier : Quantifier} {elements : List Predicate}

theorem satisfiable_group (h : (Predicate.group fields negated).Satisfiable) :
    ∀ p ∈ fields.map Prod.snd, p.Satisfiable := by
  obtain ⟨node, hwell, hholds⟩ := satisfiable_iff.mp h
  obtain ⟨-, hfields, -⟩ := (holds_group fields negated node).mp hholds
  refine List.forall_mem_map.mpr fun field hfield => satisfiable_iff.mpr ?_
  obtain ⟨inner, hstep, hinner⟩ := hfields field hfield
  exact ⟨inner, hwell.step? hstep, hinner⟩

theorem satisfiable_indexGroup (h : (Predicate.indexGroup items).Satisfiable) :
    ∀ p ∈ items.map Prod.snd, p.Satisfiable := by
  obtain ⟨node, hwell, hholds⟩ := satisfiable_iff.mp h
  obtain ⟨-, hitems⟩ := (holds_indexGroup items node).mp hholds
  refine List.forall_mem_map.mpr fun item hitem => satisfiable_iff.mpr ?_
  obtain ⟨inner, hstep, hinner⟩ := hitems item hitem
  exact ⟨inner, hwell.step? hstep, hinner⟩

theorem satisfiable_all (hsubset : quantifier ≠ .subset) (hany : quantifier ≠ .any)
    (h : (Predicate.list quantifier elements).Satisfiable) : ∀ p ∈ elements, p.Satisfiable := by
  obtain ⟨node, hwell, hholds⟩ := satisfiable_iff.mp h
  obtain ⟨nodes, rfl, hquantifier⟩ := (holds_list quantifier elements node).mp hholds
  intro p hp
  obtain ⟨inner, hinner, htest⟩ := Quantifier.exists_of_holds hsubset hany hquantifier
    (List.mem_map.mpr ⟨p, hp, rfl⟩)
  exact satisfiable_iff.mpr ⟨inner, (Node.wellFormed_list nodes).mp hwell inner hinner, htest⟩

theorem satisfiable_any (h : (Predicate.list .any elements).Satisfiable) :
    elements = [] ∨ ∃ p ∈ elements, p.Satisfiable := by
  obtain ⟨node, hwell, hholds⟩ := satisfiable_iff.mp h
  obtain ⟨nodes, rfl, hquantifier⟩ := (holds_list .any elements node).mp hholds
  refine (Quantifier.exists_of_holds_any hquantifier).imp List.map_eq_nil_iff.mp ?_
  rintro ⟨test, htest, inner, hinner, hpassed⟩
  obtain ⟨p, hp, rfl⟩ := List.mem_map.mp htest
  exact ⟨p, hp, satisfiable_iff.mpr ⟨inner, (Node.wellFormed_list nodes).mp hwell inner hinner,
    hpassed⟩⟩

end Members

end Predicate

/-! ## What is asked for on the way -/

namespace Generation

variable {σ α β : Type}

/-- A generation ended with something, or with the reason for which there is nothing, and then there
can be nothing. -/
def Settles (result : Except GenerationFault α) (possible : Prop) : Prop :=
  (∃ a, result = .ok a) ∨ (∃ cause, result = .error (.unsatisfiable cause)) ∧ ¬ possible

theorem settles_pure (a : α) (s : σ) (possible : Prop) :
    Settles ((pure a : Generation σ α).run s).1 possible := .inl ⟨a, rfl⟩

theorem Settles.mono {result : Except GenerationFault α} {possible whole : Prop}
    (h : Settles result possible) (himp : whole → possible) : Settles result whole :=
  h.imp_right fun ⟨hfailed, hnot⟩ => ⟨hfailed, hnot ∘ himp⟩

/-- What begins a generation and what it goes on with are both needed for the whole. -/
theorem settles_bind {g : Generation σ α} {f : α → Generation σ β} {s : σ} {possible whole : Prop}
    (hg : Settles (g.run s).1 possible) (himp : whole → possible)
    (hf : ∀ a next, g.run s = (.ok a, next) → Settles ((f a).run next).1 whole) :
    Settles ((g >>= f).run s).1 whole := by
  rw [run_bind]
  cases hrun : g.run s with
  | mk result next =>
    rw [hrun] at hg
    rcases hg with ⟨a, rfl⟩ | ⟨⟨cause, rfl⟩, hnot⟩
    · exact hf a next hrun
    · exact .inr ⟨⟨cause, rfl⟩, hnot ∘ himp⟩

/-- What is made of a result does not matter. -/
theorem settles_bind_pure {g : Generation σ α} {f : α → β} {s : σ} {possible : Prop}
    (hg : Settles (g.run s).1 possible) :
    Settles ((g >>= fun a => pure (f a)).run s).1 possible :=
  settles_bind hg id fun a next _ => settles_pure (f a) next possible

end Generation

namespace Predicate

open Generation

variable {σ : Type}

/-- A predicate on one number or one text, for which a generation searches. -/
def IsLeaf : Predicate → Prop
  | .number _ => True
  | .pattern _ => True
  | _ => False

variable (supply : TextSupply σ)

/-- Each search that a generation for a goal makes finds something, or fails where there is nothing
to be found. -/
def LeavesSettle (goal : Goal) (s : σ) : Prop :=
  ∀ q t, Asks supply goal s q t → IsLeaf q → Settles ((q.generate supply).run t).1 q.Satisfiable

variable {supply}

/-- All of some predicates, if each of them settles whenever its own searches do. -/
theorem settles_generateElements {ps : List Predicate}
    (ih : ∀ p ∈ ps, ∀ s, LeavesSettle supply (.one p) s →
      Settles ((p.generate supply).run s).1 p.Satisfiable)
    {s : σ} (h : LeavesSettle supply (.all ps) s) :
    Settles ((generateElements supply ps).run s).1 (∀ p ∈ ps, p.Satisfiable) := by
  induction ps generalizing s with
  | nil =>
    rw [generateElements]
    exact settles_pure [] s _
  | cons p rest ihrest =>
    rw [List.forall_mem_cons] at ih
    rw [generateElements, List.forall_mem_cons]
    refine settles_bind (ih.1 s fun q t hasks => h q t (.first hasks)) And.left ?_
    intro sketch next hmade
    have hlater := ihrest ih.2 fun q t hasks => h q t (.later hmade hasks)
    exact settles_bind_pure (hlater.mono And.right)

theorem settles_generateAny {ps : List Predicate}
    (ih : ∀ p ∈ ps, ∀ s, LeavesSettle supply (.one p) s →
      Settles ((p.generate supply).run s).1 p.Satisfiable)
    {s : σ} (h : LeavesSettle supply (.any ps) s) :
    Settles ((generateAny supply ps).run s).1 (ps = [] ∨ ∃ p ∈ ps, p.Satisfiable) := by
  induction ps generalizing s with
  | nil =>
    rw [generateAny]
    exact settles_pure [] s _
  | cons p rest ihrest =>
    rw [List.forall_mem_cons] at ih
    have hfirst := ih.1 s fun q t hasks => h q t (.firstChoice hasks)
    rw [generateAny_cons, run_orElse, run_bind]
    cases hrun : (p.generate supply).run s with
    | mk result next =>
      rw [hrun] at hfirst
      rcases hfirst with ⟨sketch, rfl⟩ | ⟨⟨cause, rfl⟩, hnot⟩
      · exact .inl ⟨[sketch], rfl⟩
      · -- The first element cannot be satisfied, so it is up to the others.
        have hlater := ihrest ih.2 fun q t hasks => h q t (.laterChoice hrun hasks)
        cases rest with
        | nil => exact .inr ⟨⟨.noElement, rfl⟩, by simpa using hnot⟩
        | cons second others =>
          refine hlater.mono ?_
          rintro (hnil | ⟨q, hq, hsatisfiable⟩)
          · cases hnil
          · rcases List.mem_cons.mp hq with rfl | hq
            · exact absurd hsatisfiable hnot
            · exact .inr ⟨q, hq, hsatisfiable⟩

/-- A generation settles if all of its searches do. -/
theorem settles_generate (p : Predicate) (hp : Everywhere Unnegated p) {s : σ}
    (h : LeavesSettle supply (.one p) s) :
    Settles ((p.generate supply).run s).1 p.Satisfiable := by
  induction p generalizing s with
  | group fields negated ihf _ =>
    obtain ⟨rfl, hfields, -⟩ := everywhere_group.mp hp
    have hmade := settles_generateElements
      (List.forall_mem_map.mpr fun field hfield _ => ihf field hfield (hfields field hfield))
      fun q t hasks => h q t (.group hasks)
    rw [generate, generateFields_eq, map_eq_pure_bind]
    exact settles_bind_pure ((settles_bind_pure hmade).mono satisfiable_group)
  | indexGroup fields ihf =>
    have hfields := (everywhere_indexGroup.mp hp).2
    have hmade := settles_generateElements
      (List.forall_mem_map.mpr fun field hfield _ => ihf field hfield (hfields field hfield))
      fun q t hasks => h q t (.indexGroup hasks)
    rw [generate, generateItems_eq, map_eq_pure_bind]
    exact settles_bind_pure ((settles_bind_pure hmade).mono satisfiable_indexGroup)
  | number test => exact h _ s .here trivial
  | text value =>
    rw [generate]
    exact settles_pure _ s _
  | pattern p => exact h _ s .here trivial
  | list quantifier elements ih =>
    have helements := (everywhere_list.mp hp).2
    have hall : ∀ q ∈ elements, ∀ t, LeavesSettle supply (.one q) t →
        Settles ((q.generate supply).run t).1 q.Satisfiable :=
      fun q hq _ => ih q hq (helements q hq)
    cases quantifier with
    | subset =>
      rw [generate]
      exact settles_pure _ s _
    | any =>
      have hmade := settles_generateAny hall fun q t hasks => h q t (.choice hasks)
      rw [generate]
      exact settles_bind_pure (hmade.mono satisfiable_any)
    | _ =>
      have hmade := settles_generateElements hall fun q t hasks =>
        h q t (.list (by decide) (by decide) hasks)
      unfold generate
      exact settles_bind_pure (hmade.mono (satisfiable_all (by decide) (by decide)))

/-! ## Trees that are made -/

/-- A list is well formed if what is made for its items is. -/
theorem wellFormed_list_sketch {items : List Sketch}
    (h : ∀ item ∈ items, item.toNode.WellFormed) : (Sketch.list items).toNode.WellFormed := by
  rw [Sketch.toNode, Sketch.itemNodes_eq_map, Node.wellFormed_list]
  exact List.forall_mem_map.mpr h

/-- A tree that a generation yields names no node twice. -/
theorem wellFormed_of_yields (p : Predicate) (hp : p.WellFormed) {sketch : Sketch}
    (h : Yields (p.generate supply) sketch) : sketch.toNode.WellFormed := by
  induction p generalizing sketch with
  | group fields negated ihf _ =>
    obtain ⟨hdistinct, hfields, -⟩ := (wellFormed_group fields negated).mp hp
    cases madeFor_of_yields h with
    | group hmade _ =>
      rw [Sketch.toNode, Sketch.entryNodes_eq_map, Node.wellFormed_compound]
      refine ⟨distinct_entryNodes hdistinct hmade, List.forall_mem_map.mpr ?_⟩
      exact forall_mem_right hmade fun field hfield _ hyields =>
        ihf field hfield (hfields field hfield) hyields.2
  | indexGroup fields ihf =>
    obtain ⟨-, hfields⟩ := (wellFormed_indexGroup fields).mp hp
    cases madeFor_of_yields h with
    | indexGroup hmade =>
      have hwell := forall_mem_right (P := fun made => made.2.toNode.WellFormed) hmade
        fun field hfield _ hyields => ihf field hfield (hfields field hfield) hyields.2
      refine wellFormed_list_sketch fun item hitem => ?_
      obtain ⟨made, hmem, rfl⟩ := Slots.mem_fill_arrange hitem
      exact hwell made hmem
  | number test =>
    cases madeFor_of_yields h
    trivial
  | text value =>
    cases madeFor_of_yields h
    trivial
  | pattern p =>
    cases madeFor_of_yields h
    trivial
  | list quantifier elements ih =>
    rw [wellFormed_list] at hp
    cases madeFor_of_yields h with
    | subset | anyOfNone => exact wellFormed_list_sketch (List.forall_mem_nil _)
    | any hmem hyields =>
      exact wellFormed_list_sketch (List.forall_mem_singleton.mpr (ih _ hmem (hp _ hmem) hyields))
    | all _ _ hitems =>
      exact wellFormed_list_sketch (forall_mem_right hitems fun q hq _ hyields =>
        ih q hq (hp q hq) hyields)

/-- A tree is made for a predicate without negated fields exactly if one satisfies it, and it is
refused as unsatisfiable exactly if none does, provided that each number and each pattern that the
generation comes to is made or is refused only where no tree satisfies it. This holds whatever texts
the supply gives, and in particular under any settings. -/
theorem generate_iff_satisfiable (p : Predicate) (hwell : p.WellFormed)
    (hplain : Everywhere Unnegated p) :
    (∀ {σ : Type} (supply : TextSupply σ) (s : σ), LeavesSettle supply (.one p) s →
      ((∃ sketch, ((p.generate supply).run s).1 = .ok sketch) ↔ p.Satisfiable) ∧
      ((∃ cause, ((p.generate supply).run s).1 = .error (.unsatisfiable cause)) ↔
        ¬ p.Satisfiable)) ∧
    ∀ [Room] (settings : Settings), LeavesSettle settings.supply (.one p) settings.dice →
      ((∃ sketch, TreePredicate.generate p settings = .ok sketch) ↔ p.Satisfiable) ∧
      ((∃ cause, TreePredicate.generate p settings = .error (.unsatisfiable cause)) ↔
        ¬ p.Satisfiable) := by
  have hmade : ∀ {σ : Type} (supply : TextSupply σ) (s : σ), LeavesSettle supply (.one p) s →
      ((∃ sketch, ((p.generate supply).run s).1 = .ok sketch) ↔ p.Satisfiable) ∧
      ((∃ cause, ((p.generate supply).run s).1 = .error (.unsatisfiable cause)) ↔
        ¬ p.Satisfiable) := by
    intro σ supply s hleaves
    rcases settles_generate p hplain hleaves with ⟨sketch, hsketch⟩ | ⟨⟨cause, hcause⟩, hnot⟩
    · have hyields : Yields (p.generate supply) sketch := ⟨s, hsketch⟩
      have hsatisfiable : p.Satisfiable := satisfiable_iff.mpr
        ⟨sketch.toNode, wellFormed_of_yields p hwell hyields, holds_of_yields p hwell hyields⟩
      rw [hsketch]
      exact ⟨iff_of_true ⟨sketch, rfl⟩ hsatisfiable, iff_of_false (by simp) (by simpa)⟩
    · rw [hcause]
      exact ⟨iff_of_false (by simp) hnot, iff_of_true ⟨cause, rfl⟩ hnot⟩
  exact ⟨hmade, fun settings => hmade settings.supply settings.dice⟩

/-- A range without numbers. -/
def noRange : NumberTest := .range (some (.int 2)) (some (.int 1)) true true none

/-- A group with a list that asks for a number of an empty range or for a text. -/
def rangeOrInitial : Predicate :=
  .group [("x", .list .any [.number noRange, .pattern initial])] []

theorem settles_noRange {σ : Type} (supply : TextSupply σ) (s : σ) :
    ∃ cause, ((Predicate.number noRange).generate supply).run s =
      (.error (.unsatisfiable cause), s) ∧ ¬ (Predicate.number noRange).Satisfiable := by
  have hempty : (Interval.ofTest noRange).isEmpty = true := by decide +kernel
  refine ⟨.emptyInterval (Interval.ofTest noRange), ?_, ?_⟩
  · have hwritten : (Interval.ofTest noRange).isWritten = true := by decide +kernel
    rw [generate, quantity, if_pos hempty, run_bind, run_giveUp, hwritten]
    rfl
  · rw [satisfiable_iff]
    rintro ⟨node, -, h⟩
    obtain ⟨quantity, -, hholds⟩ := (holds_number noRange node).mp h
    rw [Interval.holds_eq_false_of_isEmpty hempty] at hholds
    cases hholds

theorem leavesSettle_rangeOrInitial {σ : Type} {supply : TextSupply σ} {s : σ}
    (h : ∃ sketch, (((Predicate.pattern initial).generate supply).run s).1 = .ok sketch) :
    LeavesSettle supply (.one rangeOrInitial) s := by
  obtain ⟨cause, hcause, hnot⟩ := settles_noRange supply s
  intro q t hasks hleaf
  cases hasks with
  | here => cases hleaf
  | group hasks =>
    cases hasks with
    | later _ hasks => cases hasks
    | first hasks =>
      cases hasks with
      | here => cases hleaf
      | list _ hany => exact absurd rfl hany
      | choice hasks =>
        cases hasks with
        | firstChoice hasks =>
          cases hasks
          rw [hcause]
          exact .inr ⟨⟨cause, rfl⟩, hnot⟩
        | laterChoice hfailed hasks =>
          rw [hcause] at hfailed
          cases hfailed
          cases hasks with
          | firstChoice hasks =>
            cases hasks
            exact .inl h
          | laterChoice _ hasks => cases hasks

theorem generate_iff_satisfiable_rangeOrInitial :
    (((∃ sketch, ((rangeOrInitial.generate listed).run ["b", "a"]).1 = .ok sketch) ↔
        rangeOrInitial.Satisfiable) ∧
      ((∃ cause, ((rangeOrInitial.generate listed).run ["b", "a"]).1 =
          .error (.unsatisfiable cause)) ↔ ¬ rangeOrInitial.Satisfiable)) ∧
    ((∃ sketch, TreePredicate.generate rangeOrInitial = .ok sketch) ↔
        rangeOrInitial.Satisfiable) ∧
      ((∃ cause, TreePredicate.generate rangeOrInitial = .error (.unsatisfiable cause)) ↔
        ¬ rangeOrInitial.Satisfiable) := by
  have hwell : rangeOrInitial.WellFormed := by
    simp [rangeOrInitial, WellFormed, FieldsWellFormed, NegatedWellFormed, ElementsWellFormed,
      Table.Distinct]
  have hplain : Everywhere Unnegated rangeOrInitial := by
    refine everywhere_group.mpr ⟨rfl, List.forall_mem_singleton.mpr ?_, by simp⟩
    refine everywhere_list.mpr ⟨trivial, List.forall_mem_cons.mpr ⟨?_, ?_⟩⟩
    · exact (everywhere_leaf rfl).mpr trivial
    · exact List.forall_mem_singleton.mpr ((everywhere_leaf rfl).mpr trivial)
  obtain ⟨hsupply, hsettings⟩ := generate_iff_satisfiable rangeOrInitial hwell hplain
  exact ⟨hsupply listed ["b", "a"] (leavesSettle_rangeOrInitial ⟨_, rfl⟩),
    hsettings {} (leavesSettle_rangeOrInitial ⟨_, rfl⟩)⟩

end Predicate

end TreePredicate
