import TreePredicate.Proofs.Generation.Breakdown
import TreePredicate.Proofs.Predicate.Regular

/-!
# Generations without patterns

Texts are drawn for patterns only. Without patterns a generation leaves its supply alone and ends in
one way, which depends on the predicate alone.

* `Predicate.outcome`, `outcomeAny` : how a generation ends if no text can be drawn;
* `Settled` : a generation draws no text and ends in this way; `run_group`, `run_indexGroup`,
  `run_all`, `run_any` : so does one whose parts do;
* `outcome_group`, `outcome_indexGroup`, `outcome_all`, `outcome_any` : the outcome for a predicate
  from those for its parts;
* `settled_generate` : a generation without patterns is settled, by induction on the predicate.
-/

set_option autoImplicit false

namespace TreePredicate.Predicate

open Generation

variable {σ κ : Type} {supply : TextSupply σ}

/-- A predicate that is not a pattern. -/
def Patternless : Predicate → Prop
  | .pattern _ => False
  | _ => True

/-- A supply that has no texts. -/
def silent : TextSupply Unit where
  draw _ _ := (.error (.refused ""), ())
  attempts := 0

theorem steady_silent : Steady silent := by
  rintro p n s h
  cases h with
  | now h => cases h
  | later h => cases h

/-- How a generation ends if no text can be drawn. -/
def outcome (p : Predicate) : Except GenerationFault Sketch := ((p.generate silent).run ()).1

/-- How a search for an element that can be satisfied ends if no text can be drawn. -/
def outcomeAny (elements : List Predicate) : Except GenerationFault (List Sketch) :=
  ((generateAny silent elements).run ()).1

/-- The outcomes for fields, under their keys. -/
def outcomes (fields : List (κ × Predicate)) : Except GenerationFault (List (κ × Sketch)) :=
  fields.mapM fun f => Prod.mk f.1 <$> f.2.outcome

/-- A compound that breaks no negated field. -/
def admitted (negated : List (Path × Predicate)) (entries : List (String × Sketch)) :
    Except GenerationFault Sketch :=
  match firstViolated? (Sketch.compound entries).toNode negated with
  | none => .ok (.compound entries)
  | some path => .error (.unsatisfiable (.violated path))

/-- A list with items at given positions. -/
def seated (items : List (Int × Sketch)) : Sketch :=
  .list (Slots.fill (Slots.arrange (Slots.size (items.map Prod.fst)) items))

/-- A generation draws no text and ends as if there were none. -/
def Settled (supply : TextSupply σ) (p : Predicate) : Prop :=
  ∀ s, (p.generate supply).run s = (p.outcome, s)

theorem settled_silent (p : Predicate) : Settled silent p := fun _ => rfl

/-! ## Settled parts -/

theorem run_generateElements {elements : List Predicate} (h : ∀ p ∈ elements, Settled supply p)
    (s : σ) : (generateElements supply elements).run s = (elements.mapM outcome, s) := by
  induction elements with
  | nil => rfl
  | cons p rest ih =>
    rw [List.forall_mem_cons] at h
    rw [generateElements, run_bind, h.1 s, List.mapM_cons]
    cases p.outcome with
    | error fault => rfl
    | ok sketch =>
      dsimp only
      rw [run_bind, ih h.2]
      cases rest.mapM outcome <;> rfl

/-- The outcomes for fields, taken in order and then put under their keys. -/
theorem outcomes_eq (fields : List (κ × Predicate)) :
    outcomes fields = (fields.map Prod.fst).zip <$> (fields.map Prod.snd).mapM outcome := by
  unfold outcomes
  induction fields with
  | nil => rfl
  | cons f rest ih =>
    rw [List.mapM_cons, ih, List.map_cons, List.map_cons, List.mapM_cons]
    cases f.2.outcome with
    | error fault => rfl
    | ok sketch => cases (rest.map Prod.snd).mapM outcome <;> rfl

/-- What is made of the trees for fields, once these are settled. -/
theorem run_fields {α : Type} {fields : List (κ × Predicate)}
    (h : ∀ f ∈ fields, Settled supply f.2) {g : Generation σ (List (κ × Sketch))}
    (hg : g = (fields.map Prod.fst).zip <$> generateElements supply (fields.map Prod.snd))
    {f : List (κ × Sketch) → Generation σ α} {f' : List (κ × Sketch) → Except GenerationFault α}
    (hf : ∀ made s, (f made).run s = (f' made, s)) (s : σ) :
    (g >>= f).run s = (outcomes fields >>= f', s) := by
  rw [hg, map_eq_pure_bind, run_bind, run_bind,
    run_generateElements (List.forall_mem_map.mpr h), outcomes_eq]
  cases (fields.map Prod.snd).mapM outcome with
  | error fault => rfl
  | ok made => exact hf _ s

theorem run_group {fields : List (String × Predicate)} (h : ∀ f ∈ fields, Settled supply f.2)
    (negated : List (Path × Predicate)) (s : σ) :
    ((Predicate.group fields negated).generate supply).run s =
      (outcomes fields >>= admitted negated, s) := by
  rw [generate]
  refine run_fields h (generateFields_eq supply fields) (fun made t => ?_) s
  unfold admitted
  dsimp only
  cases firstViolated? (Sketch.compound made).toNode negated <;> rfl

theorem run_indexGroup {fields : List (Int × Predicate)} (h : ∀ f ∈ fields, Settled supply f.2)
    (s : σ) :
    ((Predicate.indexGroup fields).generate supply).run s = (seated <$> outcomes fields, s) := by
  rw [generate, map_eq_pure_bind]
  exact run_fields h (generateItems_eq supply fields) (fun _ _ => rfl) s

theorem run_all {quantifier : Quantifier} (hsubset : quantifier ≠ .subset)
    (hany : quantifier ≠ .any) {elements : List Predicate} (h : ∀ p ∈ elements, Settled supply p)
    (s : σ) :
    ((Predicate.list quantifier elements).generate supply).run s =
      (Sketch.list <$> elements.mapM outcome, s) := by
  cases quantifier with
  | subset => exact absurd rfl hsubset
  | any => exact absurd rfl hany
  | _ =>
    unfold generate
    rw [run_bind, run_generateElements h]
    cases elements.mapM outcome <;> rfl

/-- A search goes on behind an element that cannot be satisfied. -/
theorem run_generateAny_cons {p : Predicate} (h : Settled supply p) (rest : List Predicate) (s : σ) :
    (generateAny supply (p :: rest)).run s =
      match p.outcome with
      | .ok sketch => (.ok [sketch], s)
      | .error (.unsatisfiable _) =>
        if rest.isEmpty then (.error (.unsatisfiable .noElement), s)
        else (generateAny supply rest).run s
      | .error (.broken cause) => (.error (.broken cause), s) := by
  rw [generateAny_cons, run_orElse, run_bind, h s]
  rcases p.outcome with (cause | cause) | sketch
  · dsimp only
    split <;> rfl
  · rfl
  · rfl

theorem outcomeAny_cons (p : Predicate) (rest : List Predicate) :
    outcomeAny (p :: rest) =
      match p.outcome with
      | .ok sketch => .ok [sketch]
      | .error (.unsatisfiable _) =>
        if rest.isEmpty then .error (.unsatisfiable .noElement) else outcomeAny rest
      | .error (.broken cause) => .error (.broken cause) := by
  unfold outcomeAny
  rw [run_generateAny_cons (settled_silent p)]
  rcases p.outcome with (cause | cause) | sketch
  · dsimp only
    split <;> rfl
  · rfl
  · rfl

theorem run_generateAny {elements : List Predicate} (h : ∀ p ∈ elements, Settled supply p) (s : σ) :
    (generateAny supply elements).run s = (outcomeAny elements, s) := by
  induction elements with
  | nil => rfl
  | cons p rest ih =>
    rw [List.forall_mem_cons] at h
    rw [run_generateAny_cons h.1, outcomeAny_cons, ih h.2]
    rcases p.outcome with (cause | cause) | sketch
    · dsimp only
      split <;> rfl
    · rfl
    · rfl

theorem run_any {elements : List Predicate} (h : ∀ p ∈ elements, Settled supply p) (s : σ) :
    ((Predicate.list .any elements).generate supply).run s =
      (Sketch.list <$> outcomeAny elements, s) := by
  rw [generate, run_bind, run_generateAny h]
  cases outcomeAny elements <;> rfl

/-- A number is chosen without a supply. -/
theorem run_quantity (i : Interval) (s : σ) :
    (quantity i : Generation σ Quantity).run s =
      (((quantity i : Generation Unit Quantity).run ()).1, s) := by
  unfold quantity
  split
  · rw [run_giveUp, run_giveUp]
  · rcases i.choose? with cause | (_ | found)
    · rfl
    · dsimp only
      rw [run_giveUp, run_giveUp]
    · rfl

theorem run_number (test : NumberTest) (s : σ) :
    ((Predicate.number test).generate supply).run s =
      (Sketch.number <$> ((quantity (Interval.ofTest test) : Generation Unit Quantity).run ()).1, s) := by
  rw [generate, run_bind, run_quantity]
  cases ((quantity (Interval.ofTest test) : Generation Unit Quantity).run ()).1 <;> rfl

/-! ## Outcomes -/

theorem outcome_group (fields : List (String × Predicate)) (negated : List (Path × Predicate)) :
    outcome (.group fields negated) = outcomes fields >>= admitted negated :=
  congrArg Prod.fst (run_group (fun f _ => settled_silent f.2) negated ())

theorem outcome_indexGroup (fields : List (Int × Predicate)) :
    outcome (.indexGroup fields) = seated <$> outcomes fields :=
  congrArg Prod.fst (run_indexGroup (fun f _ => settled_silent f.2) ())

theorem outcome_all {quantifier : Quantifier} (hsubset : quantifier ≠ .subset)
    (hany : quantifier ≠ .any) (elements : List Predicate) :
    outcome (.list quantifier elements) = Sketch.list <$> elements.mapM outcome :=
  congrArg Prod.fst (run_all hsubset hany (fun p _ => settled_silent p) ())

theorem outcome_any (elements : List Predicate) :
    outcome (.list .any elements) = Sketch.list <$> outcomeAny elements :=
  congrArg Prod.fst (run_any (fun p _ => settled_silent p) ())

theorem outcome_subset (elements : List Predicate) :
    outcome (.list .subset elements) = .ok (.list []) := by
  unfold outcome
  rw [generate]
  rfl

/-- Without patterns a generation draws no text, whatever the supply, and ends in one way. -/
theorem settled_generate (p : Predicate) (h : Everywhere Patternless p) : Settled supply p := by
  induction p with
  | group fields negated ihf _ =>
    obtain ⟨-, hfields, -⟩ := everywhere_group.mp h
    intro s
    rw [outcome_group, run_group fun f hf => ihf f hf (hfields f hf)]
  | indexGroup fields ih =>
    obtain ⟨-, hfields⟩ := everywhere_indexGroup.mp h
    intro s
    rw [outcome_indexGroup, run_indexGroup fun f hf => ih f hf (hfields f hf)]
  | number test =>
    intro s
    rw [outcome, run_number, run_number]
  | text value =>
    intro s
    unfold outcome
    rw [generate, generate]
    rfl
  | pattern pattern => exact absurd h.here id
  | list quantifier elements ih =>
    obtain ⟨-, helements⟩ := everywhere_list.mp h
    have hsettled : ∀ p ∈ elements, Settled supply p := fun p hp => ih p hp (helements p hp)
    intro s
    cases quantifier with
    | subset =>
      rw [outcome_subset, generate]
      rfl
    | any => rw [outcome_any, run_any hsettled]
    | _ => rw [outcome_all (by decide) (by decide), run_all (by decide) (by decide) hsettled]

end TreePredicate.Predicate
