import TreePredicate.Proofs.Generation.Bounded
import TreePredicate.Proofs.Generation.Complete
import TreePredicate.Proofs.Generation.Patternless
import TreePredicate.Proofs.Node.Equal

/-!
# Generation and the order of fields

A generation takes the fields of a group in the order in which they stand, and the first failure is
the failure of the whole. Neither decides whether a tree is made or which one. Where two generations
are compared here, the causes of their failures are not: the order of fields may well decide which
field fails first.

* `Generation.Ends` : two generations end with related results, or both are refused; `Ends.bind`,
  `ends_mapM`, `ends_mapM_perm` : so do generations made of such parts, in the same or in another
  order;
* `Matched` : the generations for two predicates end with equal trees, or both are refused;
  `matched_self`, `matched_group`, `matched_indexGroup`, `matched_list` : so do those for predicates
  made of such parts;
* `ends_outcomes_perm`, `matched_items_perm` : and those for fields in another order;
* `matched_of_rearranged`, `generate_rearranged` : so rearranging fields at any depth makes no
  difference, nor do the settings.
-/

set_option autoImplicit false

namespace TreePredicate

namespace Generation

variable {α β γ δ : Type} {R : α → β → Prop} {S : γ → δ → Prop}
  {x : Except GenerationFault α} {y : Except GenerationFault β}

/-- Two generations end with related results, or both end with a reason for which there is none. -/
inductive Ends (R : α → β → Prop) : Except GenerationFault α → Except GenerationFault β → Prop
  | made {a : α} {b : β} (h : R a b) : Ends R (.ok a) (.ok b)
  | refused (cause cause' : Unsatisfiable) :
      Ends R (.error (.unsatisfiable cause)) (.error (.unsatisfiable cause'))

/-- What holds of the related results may be used about them. -/
theorem Ends.imp {R' : α → β → Prop} (h : Ends R x y)
    (himp : ∀ a b, x = .ok a → y = .ok b → R a b → R' a b) : Ends R' x y := by
  cases h with
  | made hab => exact .made (himp _ _ rfl rfl hab)
  | refused cause cause' => exact .refused cause cause'

theorem Ends.trans {T : β → γ → Prop} {U : α → γ → Prop} {z : Except GenerationFault γ}
    (h : Ends R x y) (h' : Ends T y z) (hU : ∀ a b c, R a b → T b c → U a c) : Ends U x z := by
  cases h with
  | made hab =>
    cases h' with
    | made hbc => exact .made (hU _ _ _ hab hbc)
  | refused cause _ =>
    cases h' with
    | refused _ cause' => exact .refused cause cause'

theorem Ends.bind {f : α → Except GenerationFault γ} {g : β → Except GenerationFault δ}
    (h : Ends R x y) (hfg : ∀ a b, R a b → Ends S (f a) (g b)) : Ends S (x >>= f) (y >>= g) := by
  cases h with
  | made hab => exact hfg _ _ hab
  | refused cause cause' => exact .refused cause cause'

theorem Ends.map {f : α → γ} {g : β → δ} (h : Ends R x y) (hfg : ∀ a b, R a b → S (f a) (g b)) :
    Ends S (f <$> x) (g <$> y) := by
  cases h with
  | made hab => exact .made (hfg _ _ hab)
  | refused cause cause' => exact .refused cause cause'

/-- Generations one after another end with related results if each one does. -/
theorem ends_mapM {f : γ → Except GenerationFault α} {g : δ → Except GenerationFault β}
    {xs : List γ} {ys : List δ} (h : List.Forall₂ (fun x y => Ends R (f x) (g y)) xs ys) :
    Ends (List.Forall₂ R) (xs.mapM f) (ys.mapM g) := by
  induction h with
  | nil => exact .made .nil
  | cons hxy _ ih =>
    rw [List.mapM_cons, List.mapM_cons]
    refine hxy.bind fun a b hab => ih.bind fun as bs hrest => ?_
    exact .made (.cons hab hrest)

/-- The order in which generations are made does not matter, unless one of them overflows. -/
theorem ends_mapM_perm {f : γ → Except GenerationFault α} {xs ys : List γ} (h : xs.Perm ys)
    (hf : ∀ x ∈ xs, Ends Eq (f x) (f x)) : Ends List.Perm (xs.mapM f) (ys.mapM f) := by
  induction h with
  | nil => exact .made .nil
  | cons x _ ih =>
    rw [List.forall_mem_cons] at hf
    rw [List.mapM_cons, List.mapM_cons]
    refine hf.1.bind fun a b hab => (ih hf.2).bind fun as bs hrest => ?_
    subst hab
    exact .made (hrest.cons a)
  | swap x y rest =>
    rw [List.forall_mem_cons, List.forall_mem_cons] at hf
    obtain ⟨hx, hy, hrest⟩ := hf
    have hself : Ends Eq (rest.mapM f) (rest.mapM f) :=
      (ends_mapM (List.forall₂_same.mpr hrest)).imp fun as bs _ _ => List.forall₂_eq_eq_eq ▸ id
    simp only [List.mapM_cons, bind_assoc, pure_bind]
    generalize f x = first at hy
    generalize f y = second at hx
    cases hx with
    | refused cause _ =>
      cases hy with
      | refused cause' _ => exact .refused cause cause'
      | made => exact .refused cause cause
    | made =>
      cases hy with
      | refused cause' _ => exact .refused cause' cause'
      | made =>
        refine hself.bind fun as bs hab => ?_
        subst hab
        exact .made (.swap _ _ as)
  | trans hperm _ ih ih' =>
    have hf' := fun x hx => hf x (hperm.mem_iff.mpr hx)
    exact (ih hf).trans (ih' hf') fun _ _ _ => List.Perm.trans

end Generation

/-- Two sketches of equal trees. -/
def Sketch.Equal (sketch other : Sketch) : Prop := sketch.toNode.Equal other.toNode

theorem Sketch.equal_list {items items' : List Sketch} (h : List.Forall₂ Sketch.Equal items items') :
    Sketch.Equal (.list items) (.list items') := by
  unfold Sketch.Equal toNode
  rw [itemNodes_eq_map, itemNodes_eq_map]
  refine Node.Equal.list_congr ?_
  rwa [List.forall₂_map_left_iff, List.forall₂_map_right_iff]

namespace Predicate

open Generation

/-- Generations for two predicates end with equal trees, or both are refused. -/
def Matched (p q : Predicate) : Prop := Ends Sketch.Equal p.outcome q.outcome

/-- A predicate has distinct keys and small integers. -/
def Moderate (p : Predicate) : Prop := DistinctKeys p ∧ SmallIntegers p

variable {p q : Predicate} {quantifier : Quantifier} {elements elements' : List Predicate}

theorem Rearranged.moderate (h : Rearranged p q) (hp : Moderate p) : Moderate q := by
  refine ⟨h.distinctKeys hp.1, ?_⟩
  replace hp := hp.2
  induction h with
  | refl => exact hp
  | trans _ _ ih ih' => exact ih' (ih hp)
  | _ => trivial

theorem wellFormed_of_moderate (h : Everywhere Moderate p) : p.WellFormed :=
  (wellFormed_iff_everywhere p).mpr (h.imp fun _ hp => hp.1)

/-! ## One generation -/

theorem wellFormed_of_outcome (hp : Everywhere Moderate p) {sketch : Sketch}
    (h : p.outcome = .ok sketch) : sketch.toNode.WellFormed :=
  wellFormed_of_yields p (wellFormed_of_moderate hp) ⟨(), h⟩

theorem ends_outcome_self (h : Everywhere Moderate p) : Ends Eq p.outcome p.outcome := by
  have hends : TreeOrReason p.outcome := treeOrReason_of_small steady_silent (h.imp fun _ hp => hp.2) ()
  rcases hends with ⟨sketch, hsketch⟩ | ⟨cause, hcause⟩
  · rw [hsketch]
    exact .made rfl
  · rw [hcause]
    exact .refused cause cause

theorem matched_self (h : Everywhere Moderate p) : Matched p p :=
  (ends_outcome_self h).imp fun _ _ hmade _ heq => heq ▸ .refl (wellFormed_of_outcome h hmade)

/-! ## Fields -/

section Fields

variable {κ : Type} {fields fields' : List (κ × Predicate)}

theorem keys_of_outcomes {made : List (κ × Sketch)} (h : outcomes fields = .ok made) :
    made.map Prod.fst = fields.map Prod.fst := by
  induction fields generalizing made with
  | nil =>
    cases h
    rfl
  | cons f rest ih =>
    unfold outcomes at h ih
    rw [List.mapM_cons] at h
    cases hf : f.2.outcome with
    | error fault =>
      rw [hf] at h
      cases h
    | ok sketch =>
      cases hrest : rest.mapM fun f => Prod.mk f.1 <$> f.2.outcome with
      | error fault =>
        rw [hf, hrest] at h
        cases h
      | ok others =>
        rw [hf, hrest] at h
        cases h
        exact congrArg (f.1 :: ·) (ih hrest)

theorem distinct_of_outcomes (hdistinct : Table.Distinct fields) {made : List (κ × Sketch)}
    (h : outcomes fields = .ok made) : Table.Distinct made := by
  unfold Table.Distinct
  rwa [keys_of_outcomes h]

/-- Fields under the same keys whose generations match. -/
theorem ends_outcomes (h : List.Forall₂ (fun f g => f.1 = g.1 ∧ Matched f.2 g.2) fields fields') :
    Ends (List.Forall₂ fun e f => e.1 = f.1 ∧ Sketch.Equal e.2 f.2)
      (outcomes fields) (outcomes fields') := by
  refine ends_mapM (h.imp fun f g hfg => ?_)
  obtain ⟨hkey, hmatched⟩ := hfg
  exact hmatched.map fun _ _ heq => ⟨hkey, heq⟩

/-- Fields in another order. -/
theorem ends_outcomes_perm (hfields : ∀ f ∈ fields, Everywhere Moderate f.2)
    (h : fields.Perm fields') : Ends List.Perm (outcomes fields) (outcomes fields') :=
  ends_mapM_perm h fun f hf => (ends_outcome_self (hfields f hf)).map fun _ _ heq => heq ▸ rfl

end Fields

/-! ## Groups -/

section Groups

variable {fields fields' : List (String × Predicate)} {negated negated' : List (Path × Predicate)}

/-- Equal compounds break the negated fields of a group, however they are rearranged, or not. -/
theorem ends_admitted (hnegated : Rearranged (.group [] negated) (.group [] negated'))
    {entries entries' : List (String × Sketch)}
    (h : Sketch.Equal (.compound entries) (.compound entries')) :
    Ends Sketch.Equal (admitted negated entries) (admitted negated' entries') := by
  have hnone : noneHolds negated (Sketch.compound entries).toNode =
      noneHolds negated' (Sketch.compound entries').toNode :=
    (noneHolds_bisimilar Node.bisimulation_equal negated h).trans
      (holds_rearranged hnegated (.compound (Sketch.entryNodes entries')))
  have hviolated : firstViolated? (Sketch.compound entries).toNode negated = none ↔
      firstViolated? (Sketch.compound entries').toNode negated' = none := by
    rw [firstViolated?_eq_none_iff, firstViolated?_eq_none_iff, ← noneHolds_iff, ← noneHolds_iff,
      hnone]
  unfold admitted
  generalize firstViolated? (Sketch.compound entries).toNode negated = path? at hviolated
  generalize firstViolated? (Sketch.compound entries').toNode negated' = path'? at hviolated
  cases path? with
  | none =>
    cases hviolated.mp rfl
    exact .made h
  | some path =>
    cases path'? with
    | none => cases hviolated.mpr rfl
    | some path' => exact .refused _ _

/-- Groups whose fields make equal compounds. -/
theorem matched_group
    (hfields : Ends (fun made made' => Sketch.Equal (.compound made) (.compound made'))
      (outcomes fields) (outcomes fields'))
    (hnegated : Rearranged (.group [] negated) (.group [] negated')) :
    Matched (.group fields negated) (.group fields' negated') := by
  unfold Matched
  rw [outcome_group, outcome_group]
  exact hfields.bind fun _ _ h => ends_admitted hnegated h

theorem ends_compounds (hdistinct : Table.Distinct fields)
    (h : List.Forall₂ (fun f g => f.1 = g.1 ∧ Matched f.2 g.2) fields fields') :
    Ends (fun made made' => Sketch.Equal (.compound made) (.compound made'))
      (outcomes fields) (outcomes fields') := by
  refine (ends_outcomes h).imp fun made made' hmade _ hequal => ?_
  unfold Sketch.Equal Sketch.toNode
  rw [Sketch.entryNodes_eq_map, Sketch.entryNodes_eq_map]
  refine Node.Equal.compound_congr ?_ ?_
  · unfold Table.Distinct
    rw [List.map_map]
    exact distinct_of_outcomes hdistinct hmade
  · rwa [List.forall₂_map_left_iff, List.forall₂_map_right_iff]

theorem ends_compounds_perm (h : Everywhere Moderate (.group fields negated))
    (hperm : fields.Perm fields') :
    Ends (fun made made' => Sketch.Equal (.compound made) (.compound made'))
      (outcomes fields) (outcomes fields') := by
  obtain ⟨hkeys, hfields, -⟩ := everywhere_group.mp h
  have hbare : Everywhere Moderate (.group fields []) :=
    everywhere_group.mpr ⟨hkeys, hfields, List.forall_mem_nil _⟩
  refine (ends_outcomes_perm hfields hperm).imp fun made made' hmade _ hmadePerm => ?_
  have hwell : (Sketch.compound made).toNode.WellFormed := by
    refine wellFormed_of_outcome hbare ?_
    rw [outcome_group, hmade]
    rfl
  unfold Sketch.Equal Sketch.toNode at *
  rw [Sketch.entryNodes_eq_map] at hwell ⊢
  rw [Sketch.entryNodes_eq_map]
  exact Node.Equal.compound_perm hwell (hmadePerm.map _)

end Groups

/-! ## Index groups -/

section IndexGroups

variable {fields fields' : List (Int × Predicate)}

theorem equal_seated {made made' : List (Int × Sketch)}
    (h : List.Forall₂ (fun e f => e.1 = f.1 ∧ Sketch.Equal e.2 f.2) made made') :
    Sketch.Equal (seated made) (seated made') := by
  unfold seated
  rw [Table.keys_eq_of_forall₂ (fun _ _ hef => hef.1) h]
  exact Sketch.equal_list (Slots.forall₂_fill (Slots.forall₂_arrange _ h))

theorem seated_perm {made made' : List (Int × Sketch)} (hdistinct : Table.Distinct made)
    (h : made.Perm made') : seated made = seated made' := by
  unfold seated
  rw [Slots.arrange_perm (Slots.size_spec hdistinct).2.1 h,
    Slots.size_perm hdistinct (h.map Prod.fst)]

theorem matched_indexGroup
    (h : List.Forall₂ (fun f g => f.1 = g.1 ∧ Matched f.2 g.2) fields fields') :
    Matched (.indexGroup fields) (.indexGroup fields') := by
  unfold Matched
  rw [outcome_indexGroup, outcome_indexGroup]
  exact (ends_outcomes h).map fun _ _ => equal_seated

/-- The same items are put into the same slots. -/
theorem matched_items_perm (h : Everywhere Moderate (.indexGroup fields))
    (hperm : fields.Perm fields') : Matched (.indexGroup fields) (.indexGroup fields') := by
  obtain ⟨⟨hdistinct, -⟩, hfields⟩ := everywhere_indexGroup.mp h
  have hsame : Ends Eq (seated <$> outcomes fields) (seated <$> outcomes fields') := by
    refine Ends.map (R := fun made made' => seated made = seated made') ?_ fun _ _ => id
    refine (ends_outcomes_perm hfields hperm).imp fun made made' hmade _ hmadePerm => ?_
    exact seated_perm (distinct_of_outcomes hdistinct hmade) hmadePerm
  unfold Matched
  rw [← outcome_indexGroup, ← outcome_indexGroup] at hsame
  exact hsame.imp fun _ _ hmade _ heq => heq ▸ .refl (wellFormed_of_outcome h hmade)

end IndexGroups

/-! ## Lists -/

theorem ends_outcomeAny (h : List.Forall₂ Matched elements elements') :
    Ends (List.Forall₂ Sketch.Equal) (outcomeAny elements) (outcomeAny elements') := by
  induction h with
  | nil => exact .made .nil
  | @cons p q rest rest' hpq hrest ih =>
    have hempty : rest.isEmpty = rest'.isEmpty := by cases hrest <;> rfl
    rw [outcomeAny_cons, outcomeAny_cons, ← hempty]
    unfold Matched at hpq
    generalize p.outcome = first at hpq
    generalize q.outcome = second at hpq
    cases hpq with
    | made heq => exact .made (.cons heq .nil)
    | refused =>
      dsimp only
      split
      · exact .refused _ _
      · exact ih

theorem matched_list (h : List.Forall₂ Matched elements elements') :
    Matched (.list quantifier elements) (.list quantifier elements') := by
  unfold Matched
  cases quantifier with
  | subset =>
    rw [outcome_subset, outcome_subset]
    exact .made (Sketch.equal_list .nil)
  | any =>
    rw [outcome_any, outcome_any]
    exact (ends_outcomeAny h).map fun _ _ => Sketch.equal_list
  | _ =>
    rw [outcome_all (by decide) (by decide), outcome_all (by decide) (by decide)]
    exact (ends_mapM h).map fun _ _ => Sketch.equal_list

/-! ## Rearranged predicates -/

/-- What is rearranged one by one is related one by one, if all else is related to itself. -/
theorem forall₂_around {α : Type} {R : α → α → Prop} {before after : List α} {x y : α}
    (hself : ∀ a ∈ before ++ x :: after, R a a) (h : R x y) :
    List.Forall₂ R (before ++ x :: after) (before ++ y :: after) := by
  rw [List.forall_mem_append, List.forall_mem_cons] at hself
  obtain ⟨hbefore, -, hafter⟩ := hself
  exact List.rel_append (List.forall₂_same.mpr hbefore) (.cons h (List.forall₂_same.mpr hafter))

theorem matched_fields_self {κ : Type} {fields : List (κ × Predicate)}
    (h : ∀ f ∈ fields, Everywhere Moderate f.2) :
    ∀ f ∈ fields, f.1 = f.1 ∧ Matched f.2 f.2 :=
  fun f hf => ⟨rfl, matched_self (h f hf)⟩

/-- Putting fields into another order anywhere inside a predicate makes no difference to its
generation. -/
theorem matched_of_rearranged (h : Rearranged p q) (hp : Everywhere Moderate p) : Matched p q := by
  induction h with
  | refl => exact matched_self hp
  | trans hpq _ ih ih' =>
    have hmiddle := hpq.everywhere (fun _ _ => Rearranged.moderate) hp
    exact (ih hp).trans (ih' hmiddle) fun _ _ _ => Node.Equal.trans
  | fields negated hperm => exact matched_group (ends_compounds_perm hp hperm) (.refl _)
  | negated fields hperm =>
    exact matched_group (ends_compounds_perm hp (.refl fields)) (.negated [] hperm)
  | items hperm => exact matched_items_perm hp hperm
  | inField before after key negated _ ih =>
    obtain ⟨⟨hdistinct, -⟩, hfields, -⟩ := everywhere_group.mp hp
    refine matched_group (ends_compounds hdistinct ?_) (.refl _)
    exact forall₂_around (matched_fields_self hfields) ⟨rfl, ih (hfields _ List.mem_append_cons_self)⟩
  | inNegated fields before after path hinner _ =>
    exact matched_group (ends_compounds_perm hp (.refl fields)) (.inNegated [] before after path hinner)
  | inItem before after position _ ih =>
    obtain ⟨-, hfields⟩ := everywhere_indexGroup.mp hp
    refine matched_indexGroup ?_
    exact forall₂_around (matched_fields_self hfields) ⟨rfl, ih (hfields _ List.mem_append_cons_self)⟩
  | inElement quantifier before after _ ih =>
    obtain ⟨-, helements⟩ := everywhere_list.mp hp
    refine matched_list (forall₂_around (fun p hp => matched_self (helements p hp)) ?_)
    exact ih (helements _ List.mem_append_cons_self)

theorem Rearranged.patternless (h : Rearranged p q) (hp : Patternless p) : Patternless q := by
  induction h with
  | refl => exact hp
  | trans _ _ ih ih' => exact ih' (ih hp)
  | _ => trivial

/-- Without patterns and between small integers, neither the order of fields and of negated fields
anywhere inside a predicate nor where texts would come from makes a difference to a generation: both
trees are equal, or there is none in either case. In particular no settings make a difference. -/
theorem generate_rearranged (p q : Predicate) (hwell : p.WellFormed)
    (hpatternless : Everywhere Patternless p) (hsmall : Everywhere SmallIntegers p)
    (h : Rearranged p q) :
    (∀ {σ τ : Type} (supply : TextSupply σ) (supply' : TextSupply τ) (s : σ) (t : τ),
      Ends Sketch.Equal ((p.generate supply).run s).1 ((q.generate supply').run t).1) ∧
    ∀ [Room] (settings settings' : Settings), Ends Sketch.Equal (TreePredicate.generate p settings)
      (TreePredicate.generate q settings') := by
  have hmoderate : Everywhere Moderate p := ((wellFormed_iff_everywhere p).mp hwell).and hsmall
  have hpatternless' := h.everywhere (fun _ _ => Rearranged.patternless) hpatternless
  have hends : ∀ {σ τ : Type} (supply : TextSupply σ) (supply' : TextSupply τ) (s : σ) (t : τ),
      Ends Sketch.Equal ((p.generate supply).run s).1 ((q.generate supply').run t).1 := by
    intro σ τ supply supply' s t
    rw [settled_generate p hpatternless, settled_generate q hpatternless']
    exact matched_of_rearranged h hmoderate
  exact ⟨hends, fun settings settings' =>
    hends settings.supply settings'.supply settings.dice settings'.dice⟩

/-- A chest with a mass. -/
def heavyChest : Predicate := chest [("mass", .number (.compare .atLeast (.int 2) none))]

/-- The chest with its slots, and the fields of the chest, in another order. -/
def heavyChestTurned : Predicate :=
  .group [("mass", .number (.compare .atLeast (.int 2) none)),
      ("slots", .indexGroup [(-1, .text "key"), (1, .text "map")]),
      ("tags", .list .superset [.text "old", .list .subset [.text "new"]])]
    [([.key "slots", .index 0], .text "key")]

theorem rearranged_heavyChest : Rearranged heavyChest heavyChestTurned := by
  refine .trans (.inField [] _ "slots" _ (.items (.swap _ _ _))) (.fields _ ?_)
  exact (List.perm_append_comm : ([_, _] ++ [_] : List (String × Predicate)).Perm ([_] ++ [_, _]))

theorem generate_rearranged_heavyChest :
    Ends Sketch.Equal (TreePredicate.generate heavyChest {})
      (TreePredicate.generate heavyChestTurned ⟨some 7, 3, by decide⟩) := by
  refine (generate_rearranged heavyChest heavyChestTurned ?_ ?_ ?_ rearranged_heavyChest).2 _ _
  · simp [heavyChest, chest, WellFormed, FieldsWellFormed, ItemsWellFormed, NegatedWellFormed,
      ElementsWellFormed, Table.Distinct]
  · simp [heavyChest, chest, everywhere_group, everywhere_indexGroup, everywhere_list,
      everywhere_number, everywhere_text, Patternless]
  · simp [heavyChest, chest, everywhere_group, everywhere_indexGroup, everywhere_list,
      everywhere_number, everywhere_text, SmallIntegers, testNumbers, -Nat.reducePow]
    decide +kernel

end Predicate

end TreePredicate
