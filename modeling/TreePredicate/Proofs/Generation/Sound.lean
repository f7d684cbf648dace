import TreePredicate.Generation
import TreePredicate.Proofs.Assignment.Matching
import TreePredicate.Proofs.Generation.Slots
import TreePredicate.Proofs.Predicate.Evaluate
import TreePredicate.Proofs.Table.Related

/-!
# Generated trees satisfy their predicates

A generation asks its supply for texts and believes none of them. Whatever it answers, a tree that
comes out satisfies the predicate it was made for.

* `Generation.Yields` : a generation may end with a result; `yields_bind`, `yields_orElse` take a
  generation apart;
* `yields_quantity`, `yields_acceptedText` : numbers are inside their interval and texts match their
  pattern, because they were tested;
* `generateFields_spec`, `generateItems_spec`, `generateElements_spec`, `generateAny_spec` : the
  parts of a predicate are made one by one;
* `MadeFor`, `madeFor_of_yields` : all that a generation may yield, by the shape of the predicate;
* `Quantifier.holds_of_forall₂` : items that pass the tests one each, in order, satisfy every
  quantifier;
* `evaluate_of_generate` : a generated tree is accepted.
-/

set_option autoImplicit false

namespace TreePredicate

namespace Generation

variable {σ α β : Type}

/-- A generation ends with a result, for some source of texts. -/
def Yields (g : Generation σ α) (a : α) : Prop := ∃ s, (g.run s).1 = .ok a

theorem yields_pure {a b : α} (h : Yields (pure a : Generation σ α) b) : b = a := by
  obtain ⟨s, h⟩ := h
  cases h
  rfl

theorem not_yields_throw {fault : GenerationFault} {a : α} :
    ¬ Yields (throw fault : Generation σ α) a := by
  rintro ⟨s, h⟩
  cases h

theorem not_yields_unsatisfiable {cause : Unsatisfiable} {a : α} :
    ¬ Yields (unsatisfiable cause : Generation σ α) a := not_yields_throw

/-- What is said of an interval that is given up, if it can be written out. -/
theorem run_giveUp (i : Interval) (cause : Unsatisfiable) (s : σ) :
    (giveUp i cause : Generation σ α).run s =
      (.error (if i.isWritten then .unsatisfiable cause else .broken .unwritable), s) := by
  unfold giveUp
  cases i.isWritten <;> rfl

theorem not_yields_giveUp {i : Interval} {cause : Unsatisfiable} {a : α} :
    ¬ Yields (giveUp i cause : Generation σ α) a := by
  rintro ⟨s, h⟩
  rw [run_giveUp] at h
  cases h

theorem run_bind (g : Generation σ α) (f : α → Generation σ β) (s : σ) :
    (g >>= f).run s = match g.run s with
      | (.ok a, next) => (f a).run next
      | (.error fault, next) => (.error fault, next) := by
  show (match g s with | (result, next) => ExceptT.bindCont f result next) = _
  unfold ExceptT.run
  cases g s with
  | mk result next => cases result <;> rfl

theorem run_orElse (first second : Generation σ α) (s : σ) :
    (orElse first second).run s = match first.run s with
      | (.ok a, next) => (.ok a, next)
      | (.error (.unsatisfiable _), next) => second.run next
      | (.error (.broken cause), next) => (.error (.broken cause), next) := by
  unfold orElse ExceptT.run
  simp only [tryCatchThe, MonadExceptOf.tryCatch, ExceptT.tryCatch, ExceptT.mk, tryCatch, bind,
    StateT.bind]
  cases first s with
  | mk result next =>
    cases result with
    | ok a => rfl
    | error fault => cases fault <;> rfl

/-- What follows a generation follows one of its results. -/
theorem yields_bind {g : Generation σ α} {f : α → Generation σ β} {b : β}
    (h : Yields (g >>= f) b) : ∃ a, Yields g a ∧ Yields (f a) b := by
  obtain ⟨s, h⟩ := h
  rw [run_bind] at h
  cases hg : g.run s with
  | mk result next =>
    rw [hg] at h
    cases result with
    | error fault => cases h
    | ok a => exact ⟨a, ⟨s, congrArg Prod.fst hg⟩, ⟨next, h⟩⟩

/-- What is done in place of an unsatisfiable generation yields its own results. -/
theorem yields_orElse {first second : Generation σ α} {a : α} (h : Yields (orElse first second) a) :
    Yields first a ∨ Yields second a := by
  obtain ⟨s, h⟩ := h
  rw [run_orElse] at h
  cases hfirst : first.run s with
  | mk result next =>
    rw [hfirst] at h
    cases result with
    | ok b =>
      cases h
      exact .inl ⟨s, congrArg Prod.fst hfirst⟩
    | error fault =>
      cases fault with
      | unsatisfiable cause => exact .inr ⟨next, h⟩
      | broken cause => cases h

/-! ## Numbers and texts -/

theorem firstInside?_holds {i : Interval} {candidates : List Number} {q : Quantity}
    (h : i.firstInside? candidates = .ok (some q)) : i.holds q.value = true := by
  induction candidates with
  | nil => cases h
  | cons candidate rest ih =>
    rw [Interval.firstInside?] at h
    cases hq : Interval.quantity? i.width? candidate with
    | error cause =>
      rw [hq] at h
      cases h
    | ok found? =>
      rw [hq] at h
      cases found? with
      | none => exact ih h
      | some found =>
        replace h : (if i.holds found.value = true then pure (some found)
          else i.firstInside? rest) = Except.ok (some q) := h
        split at h
        · cases h
          assumption
        · exact ih h

theorem yields_quantity {i : Interval} {q : Quantity}
    (h : Yields (quantity i : Generation σ Quantity) q) : i.holds q.value = true := by
  unfold quantity at h
  split at h
  · exact absurd h not_yields_giveUp
  · split at h
    · next found hchoose =>
      rw [yields_pure h]
      unfold Interval.choose? at hchoose
      cases hcandidates : i.candidates? with
      | error cause =>
        rw [hcandidates] at hchoose
        cases hchoose
      | ok candidates =>
        rw [hcandidates] at hchoose
        exact firstInside?_holds hchoose
    · exact absurd h not_yields_giveUp
    · exact absurd h not_yields_throw

theorem yields_acceptedText {supply : TextSupply σ} {p : Pattern} {n : Nat} {value : String}
    (h : Yields (acceptedText supply p n) value) : p.accepts value = true := by
  induction n with
  | zero => exact absurd h not_yields_unsatisfiable
  | succ n ih =>
    obtain ⟨drawn, -, h⟩ := yields_bind h
    split at h
    · next haccepts => rwa [yields_pure h]
    · exact ih h

theorem firstViolated?_eq_none_iff {tree : Node} {negated : List (Path × Predicate)} :
    firstViolated? tree negated = none ↔
      ∀ f ∈ negated, ∀ target, tree.resolve? f.1 = some target → f.2.holds target = false := by
  rw [firstViolated?, Option.map_eq_none_iff, List.find?_eq_none]
  refine forall₂_congr fun f _ => ?_
  cases h : tree.resolve? f.1 <;> simp [h]

end Generation

/-! ## Lists -/

theorem Quantifier.run_of_forall₂ {α : Type} {tests : List (α → Bool)} {items : List α}
    (h : List.Forall₂ (fun test x => test x = true) tests items) : run tests items = true := by
  induction h with
  | nil => rfl
  | cons hx _ ih => rw [run, hx, ih, Bool.and_self]

theorem Matching.size_of_forall₂ {α : Type} {tests : List (α → Bool)} {items : List α}
    (h : List.Forall₂ (fun test x => test x = true) tests items) :
    Matching.size (Quantifier.allowed tests items) = items.length := by
  have hlength := h.length_eq
  rw [Matching.size_eq_min (Assignment.full_diagonal (le_of_eq hlength.symm)), Nat.min_eq_left
    (le_of_eq hlength.symm)]
  intro p hp
  obtain ⟨i, -, rfl⟩ := List.mem_map.mp hp
  exact List.forall₂_iff_get.mp h |>.2 i (by omega) i.isLt

/-- Items that pass the tests one each, in order, satisfy every quantifier. -/
theorem Quantifier.holds_of_forall₂ {α : Type} (quantifier : Quantifier) {tests : List (α → Bool)}
    {items : List α} (h : List.Forall₂ (fun test x => test x = true) tests items) :
    quantifier.holds tests items = true := by
  have hlength := h.length_eq
  have hrun := run_of_forall₂ h
  have hsize := Matching.size_of_forall₂ h
  cases quantifier with
  | exact => simp [holds, hrun, hlength]
  | any =>
    cases h with
    | nil => rfl
    | cons hx _ => simp [holds, hx]
  | subset => simp [holds, hsize, hlength]
  | superset => simp [holds, hsize, hlength]
  | _ => simp [holds, hrun, hlength]

theorem Quantifier.holds_subset_nil {α : Type} (tests : List (α → Bool)) :
    Quantifier.subset.holds tests [] = true := by
  have hsize : Matching.size (allowed tests []) = 0 := by
    rw [Matching.size_eq_min (Assignment.full_diagonal (Nat.zero_le _)) (by simp)]
    exact Nat.zero_min _
  simp [holds, hsize]

theorem Quantifier.holds_any_singleton {α : Type} {tests : List (α → Bool)} {test : α → Bool} {x : α}
    (htest : test ∈ tests) (hx : test x = true) : Quantifier.any.holds tests [x] = true := by
  have hnonempty : tests.isEmpty = false := List.isEmpty_eq_false_iff.mpr (List.ne_nil_of_mem htest)
  have hany : (tests.any fun t => t x) = true := List.any_eq_true.mpr ⟨test, htest, hx⟩
  simp [holds, hnonempty, hany]

/-! ## Trees -/

theorem Sketch.entryNodes_eq_map (entries : List (String × Sketch)) :
    entryNodes entries = entries.map fun e => (e.1, e.2.toNode) := by
  induction entries with
  | nil => rfl
  | cons e rest ih => rw [entryNodes, ih, List.map_cons]

theorem Sketch.itemNodes_eq_map (items : List Sketch) : itemNodes items = items.map toNode := by
  induction items with
  | nil => rfl
  | cons sketch rest ih => rw [itemNodes, ih, List.map_cons]

theorem atPosition?_map {α β : Type} (f : α → β) (items : List α) (position : Int) :
    atPosition? (items.map f) position = (atPosition? items position).map f := by
  unfold atPosition?
  rw [List.length_map]
  split
  · exact List.getElem?_map
  · split
    · exact List.getElem?_map
    · rfl

namespace Predicate

open Generation

variable {σ : Type} {supply : TextSupply σ}

/-- A sketch made for a field, under its key. -/
def Made {κ : Type} (supply : TextSupply σ) (field : κ × Predicate) (made : κ × Sketch) : Prop :=
  made.1 = field.1 ∧ Yields (field.2.generate supply) made.2

theorem keys_eq_of_made {κ : Type} {fields : List (κ × Predicate)} {made : List (κ × Sketch)}
    (h : List.Forall₂ (Made supply) fields made) : made.map Prod.fst = fields.map Prod.fst :=
  (Table.keys_eq_of_forall₂ (fun _ _ (hmade : Made supply _ _) => hmade.1.symm) h).symm

theorem exists_mem_made {κ : Type} {fields : List (κ × Predicate)} {made : List (κ × Sketch)}
    (h : List.Forall₂ (Made supply) fields made) {field : κ × Predicate} (hfield : field ∈ fields) :
    ∃ sketch, (field.1, sketch) ∈ made ∧ Yields (field.2.generate supply) sketch := by
  induction h with
  | nil => cases hfield
  | @cons first made _ _ hmade _ ih =>
    rcases List.mem_cons.mp hfield with rfl | hrest
    · obtain ⟨key, sketch⟩ := made
      obtain ⟨rfl, hyields⟩ := hmade
      exact ⟨sketch, List.mem_cons_self, hyields⟩
    · obtain ⟨sketch, hmem, hyields⟩ := ih hrest
      exact ⟨sketch, List.mem_cons_of_mem _ hmem, hyields⟩

theorem generateFields_spec {fields : List (String × Predicate)} {made : List (String × Sketch)}
    (h : Yields (generateFields supply fields) made) : List.Forall₂ (Made supply) fields made := by
  induction fields generalizing made with
  | nil =>
    rw [generateFields] at h
    rw [yields_pure h]
    exact .nil
  | cons field rest ih =>
    obtain ⟨name, p⟩ := field
    rw [generateFields] at h
    obtain ⟨sketch, hsketch, h⟩ := yields_bind h
    obtain ⟨others, hothers, h⟩ := yields_bind h
    rw [yields_pure h]
    exact .cons ⟨rfl, hsketch⟩ (ih hothers)

theorem generateItems_spec {fields : List (Int × Predicate)} {made : List (Int × Sketch)}
    (h : Yields (generateItems supply fields) made) : List.Forall₂ (Made supply) fields made := by
  induction fields generalizing made with
  | nil =>
    rw [generateItems] at h
    rw [yields_pure h]
    exact .nil
  | cons field rest ih =>
    obtain ⟨position, p⟩ := field
    rw [generateItems] at h
    obtain ⟨sketch, hsketch, h⟩ := yields_bind h
    obtain ⟨others, hothers, h⟩ := yields_bind h
    rw [yields_pure h]
    exact .cons ⟨rfl, hsketch⟩ (ih hothers)

theorem generateElements_spec {elements : List Predicate} {made : List Sketch}
    (h : Yields (generateElements supply elements) made) :
    List.Forall₂ (fun p sketch => Yields (p.generate supply) sketch) elements made := by
  induction elements generalizing made with
  | nil =>
    rw [generateElements] at h
    rw [yields_pure h]
    exact .nil
  | cons p rest ih =>
    rw [generateElements] at h
    obtain ⟨sketch, hsketch, h⟩ := yields_bind h
    obtain ⟨others, hothers, h⟩ := yields_bind h
    rw [yields_pure h]
    exact .cons hsketch (ih hothers)

/-- One tree is made for one of the elements, and none if there is no element. -/
theorem generateAny_spec {elements : List Predicate} {made : List Sketch}
    (h : Yields (generateAny supply elements) made) :
    elements = [] ∧ made = [] ∨
      ∃ p ∈ elements, ∃ sketch, made = [sketch] ∧ Yields (p.generate supply) sketch := by
  induction elements generalizing made with
  | nil =>
    rw [generateAny] at h
    exact .inl ⟨rfl, yields_pure h⟩
  | cons p rest ih =>
    unfold generateAny at h
    refine .inr ?_
    rcases yields_orElse h with h | h
    · obtain ⟨sketch, hsketch, h⟩ := yields_bind h
      exact ⟨p, List.mem_cons_self, sketch, yields_pure h, hsketch⟩
    · cases rest with
      | nil => exact absurd h not_yields_unsatisfiable
      | cons next others =>
        rcases ih h with ⟨hnil, -⟩ | ⟨q, hq, sketch, hmade, hsketch⟩
        · cases hnil
        · exact ⟨q, List.mem_cons_of_mem p hq, sketch, hmade, hsketch⟩

/-- What a generation for a predicate makes, given what is made for its parts. -/
inductive MadeFor (supply : TextSupply σ) : Predicate → Sketch → Prop where
  | group {fields : List (String × Predicate)} {negated : List (Path × Predicate)}
      {made : List (String × Sketch)} (hmade : List.Forall₂ (Made supply) fields made)
      (hkept : firstViolated? (Sketch.compound made).toNode negated = none) :
      MadeFor supply (.group fields negated) (.compound made)
  | indexGroup {fields : List (Int × Predicate)} {made : List (Int × Sketch)}
      (hmade : List.Forall₂ (Made supply) fields made) :
      MadeFor supply (.indexGroup fields)
        (.list (Slots.fill (Slots.arrange (Slots.size (made.map Prod.fst)) made)))
  | number {test : NumberTest} {quantity : Quantity}
      (hinside : (Interval.ofTest test).holds quantity.value = true) :
      MadeFor supply (.number test) (.number quantity)
  | text (value : String) : MadeFor supply (.text value) (.text value)
  | pattern {p : Pattern} {value : String} (haccepted : p.accepts value = true) :
      MadeFor supply (.pattern p) (.drawn p value)
  | subset (elements : List Predicate) : MadeFor supply (.list .subset elements) (.list [])
  | anyOfNone : MadeFor supply (.list .any []) (.list [])
  | any {elements : List Predicate} {p : Predicate} {sketch : Sketch} (hp : p ∈ elements)
      (h : Yields (p.generate supply) sketch) : MadeFor supply (.list .any elements) (.list [sketch])
  | all {quantifier : Quantifier} {elements : List Predicate} {items : List Sketch}
      (hsubset : quantifier ≠ .subset) (hany : quantifier ≠ .any)
      (h : List.Forall₂ (fun p sketch => Yields (p.generate supply) sketch) elements items) :
      MadeFor supply (.list quantifier elements) (.list items)

/-- A generation yields nothing else. -/
theorem madeFor_of_yields {p : Predicate} {sketch : Sketch} (h : Yields (p.generate supply) sketch) :
    MadeFor supply p sketch := by
  cases p with
  | group fields negated =>
    rw [generate] at h
    obtain ⟨made, hmade, h⟩ := yields_bind h
    dsimp only at h
    split at h
    · next hkept =>
      rw [yields_pure h]
      exact .group (generateFields_spec hmade) hkept
    · exact absurd h not_yields_unsatisfiable
  | indexGroup fields =>
    rw [generate] at h
    obtain ⟨made, hmade, h⟩ := yields_bind h
    rw [yields_pure h]
    exact .indexGroup (generateItems_spec hmade)
  | number test =>
    rw [generate] at h
    obtain ⟨quantity, hquantity, h⟩ := yields_bind h
    rw [yields_pure h]
    exact .number (yields_quantity hquantity)
  | text value =>
    rw [generate] at h
    rw [yields_pure h]
    exact .text value
  | pattern p =>
    rw [generate] at h
    obtain ⟨value, hvalue, h⟩ := yields_bind h
    rw [yields_pure h]
    exact .pattern (yields_acceptedText hvalue)
  | list quantifier elements =>
    cases quantifier with
    | subset =>
      rw [generate] at h
      rw [yields_pure h]
      exact .subset elements
    | any =>
      rw [generate] at h
      obtain ⟨items, hitems, h⟩ := yields_bind h
      rw [yields_pure h]
      rcases generateAny_spec hitems with ⟨rfl, rfl⟩ | ⟨p, hp, sketch, rfl, hyields⟩
      · exact .anyOfNone
      · exact .any hp hyields
    | _ =>
      unfold generate at h
      obtain ⟨items, hitems, h⟩ := yields_bind h
      rw [yields_pure h]
      exact .all (by decide) (by decide) (generateElements_spec hitems)

/-- What is made for the fields of a group has their keys, each once. -/
theorem distinct_entryNodes {fields : List (String × Predicate)} {made : List (String × Sketch)}
    (hdistinct : Table.Distinct fields) (hmade : List.Forall₂ (Made supply) fields made) :
    Table.Distinct (made.map fun e => (e.1, e.2.toNode)) := by
  unfold Table.Distinct
  rw [List.map_map]
  exact (keys_eq_of_made hmade).symm ▸ hdistinct

/-- Every tree that a generation for a predicate yields satisfies it. -/
theorem holds_of_yields (p : Predicate) (hp : p.WellFormed) {sketch : Sketch}
    (h : Yields (p.generate supply) sketch) : p.holds sketch.toNode = true := by
  induction p generalizing sketch with
  | group fields negated ihf _ =>
    obtain ⟨hdistinct, hfields, -⟩ := (wellFormed_group fields negated).mp hp
    cases madeFor_of_yields h with
    | @group _ _ made hmade hkept =>
      rw [holds_group]
      refine ⟨⟨_, rfl⟩, fun field hfield => ?_, firstViolated?_eq_none_iff.mp hkept⟩
      obtain ⟨inner, hmem, hyields⟩ := exists_mem_made hmade hfield
      refine ⟨inner.toNode, ?_, ihf field hfield (hfields field hfield) hyields⟩
      show Table.find? field.1 (Sketch.entryNodes made) = some inner.toNode
      rw [Sketch.entryNodes_eq_map]
      exact Table.find?_eq_of_mem (distinct_entryNodes hdistinct hmade)
        (List.mem_map.mpr ⟨_, hmem, rfl⟩)
  | indexGroup fields ihf =>
    obtain ⟨hdistinct, hfields⟩ := (wellFormed_indexGroup fields).mp hp
    cases madeFor_of_yields h with
    | indexGroup hmade =>
      rw [holds_indexGroup]
      refine ⟨⟨_, rfl⟩, fun field hfield => ?_⟩
      obtain ⟨inner, hmem, hyields⟩ := exists_mem_made hmade hfield
      refine ⟨inner.toNode, ?_, ihf field hfield (hfields field hfield) hyields⟩
      show atPosition? (Sketch.itemNodes _) field.1 = _
      rw [Sketch.itemNodes_eq_map, atPosition?_map,
        Slots.atPosition?_fill_arrange ((keys_eq_of_made hmade).symm ▸ hdistinct) hmem,
        Option.map_some]
  | number test =>
    cases madeFor_of_yields h with
    | number hinside => exact (holds_number _ _).mpr ⟨_, rfl, hinside⟩
  | text value =>
    cases madeFor_of_yields h with
    | text => exact (holds_text _ _).mpr rfl
  | pattern p =>
    cases madeFor_of_yields h with
    | pattern haccepted => exact (holds_pattern _ _).mpr ⟨_, rfl, haccepted⟩
  | list quantifier elements ih =>
    rw [wellFormed_list] at hp
    rw [holds_list]
    cases madeFor_of_yields h with
    | subset => exact ⟨_, rfl, Quantifier.holds_subset_nil _⟩
    | anyOfNone => exact ⟨_, rfl, rfl⟩
    | any hmem hyields =>
      exact ⟨_, rfl, Quantifier.holds_any_singleton (List.mem_map.mpr ⟨_, hmem, rfl⟩)
        (ih _ hmem (hp _ hmem) hyields)⟩
    | all _ _ hitems =>
      refine ⟨_, rfl, ?_⟩
      rw [Sketch.itemNodes_eq_map]
      apply Quantifier.holds_of_forall₂
      rw [List.forall₂_map_left_iff, List.forall₂_map_right_iff]
      refine ((List.forall₂_and_left _ _).mpr ⟨fun q hq => hq, hitems⟩).imp ?_
      rintro q item ⟨hq, hyields⟩
      exact ih q hq (hp q hq) hyields

/-- A tree that is generated for a predicate is accepted, whatever texts the supply gives, and in
particular under any settings. -/
theorem evaluate_of_generate (p : Predicate) (hp : p.WellFormed) :
    (∀ {σ : Type} (supply : TextSupply σ) (s : σ) (sketch : Sketch),
      ((p.generate supply).run s).1 = .ok sketch → p.evaluate sketch.toNode = .ok true) ∧
    ∀ [Room] (settings : Settings) (sketch : Sketch),
      TreePredicate.generate p settings = .ok sketch → p.evaluate sketch.toNode = .ok true := by
  have hsound : ∀ {σ : Type} (supply : TextSupply σ) (s : σ) (sketch : Sketch),
      ((p.generate supply).run s).1 = .ok sketch → p.evaluate sketch.toNode = .ok true := by
    intro σ supply s sketch h
    rw [evaluate_eq, holds_of_yields p hp ⟨s, h⟩]
  exact ⟨hsound, fun settings sketch h => hsound settings.supply settings.dice sketch h⟩

/-- A group with an index group, which leaves a gap, with lists inside one another and with a
negated field. -/
def chest (rest : List (String × Predicate)) : Predicate :=
  .group (("slots", .indexGroup [(1, .text "map"), (-1, .text "key")]) ::
      ("tags", .list .superset [.text "old", .list .subset [.text "new"]]) :: rest)
    [([.key "slots", .index 0], .text "key")]

/-- The tree that is generated for the group. -/
def chestSketch (rest : List (String × Sketch)) : Sketch :=
  .compound (("slots", .list [.text "map", .text "map", .text "key"]) ::
    ("tags", .list [.text "old", .list []]) :: rest)

/-- A pattern that matches one text. -/
def initial : Pattern := ⟨"a", _, rfl⟩

/-- A supply that gives the texts of a list. -/
def listed : TextSupply (List String) where
  draw _ texts :=
    match texts with
    | [] => (.error (.refused "empty"), [])
    | value :: rest => (.ok value, rest)
  attempts := 2

theorem evaluate_chest :
    (chest [("mark", .pattern initial)]).evaluate
        (chestSketch [("mark", .drawn initial "a")]).toNode = .ok true ∧
      (chest []).evaluate (chestSketch []).toNode = .ok true := by
  have hwell : ∀ rest, rest = [] ∨ rest = [("mark", .pattern initial)] →
      (chest rest).WellFormed := by
    rintro rest (rfl | rfl)
    all_goals
      simp [chest, WellFormed, FieldsWellFormed, ItemsWellFormed, NegatedWellFormed,
        ElementsWellFormed, Table.Distinct]
  constructor
  · exact (evaluate_of_generate _ (hwell _ (.inr rfl))).1 listed ["b", "a"] _ rfl
  · exact (evaluate_of_generate _ (hwell _ (.inl rfl))).2 {} _ rfl

end Predicate

end TreePredicate
