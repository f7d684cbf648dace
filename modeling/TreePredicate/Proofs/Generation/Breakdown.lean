import TreePredicate.Proofs.Generation.Search
import TreePredicate.Proofs.Generation.Sound

/-!
# Generations that break off

A generation ends with a tree, with the reason for which there is none, or it breaks off: a search
overflows, an interval that is refused has too many digits to be written, or a drawing ends by an error
that nobody takes for a reason. Where it breaks off it is not taken up again: not even a list that asks
for any of its elements goes on behind it.

* `Generation.BreaksOff` : a generation breaks off; `breaksOff_bind`, `breaksOff_orElse` take a
  generation apart;
* `BreaksAt` : the numbers and patterns at which one breaks off; `breaksOff_quantity`,
  `breaksOff_acceptedText` : it does there;
* `Goal`, `Asks` : what is to be made, and the predicates for which trees are to be made on the way;
* `breaksOff_generate_iff` : a generation breaks off exactly if it asks for such a number or pattern,
  by induction on the predicate.
-/

set_option autoImplicit false

namespace TreePredicate

/-- No number is made for an interval: it is empty, or a search finds nothing. -/
def Interval.Refused (i : Interval) : Prop := i.isEmpty = true ∨ i.choose? = .ok none

/-- No number can be chosen for a test without an overflow, though some number may pass it. -/
def NumberTest.TooLarge (test : NumberTest) : Prop :=
  (Interval.ofTest test).isEmpty = false ∧ (Interval.ofTest test).TooLarge

/-- No number is made for a test, and its interval has too many digits to be written. -/
def NumberTest.Unwritable (test : NumberTest) : Prop :=
  (Interval.ofTest test).Refused ∧ (Interval.ofTest test).isWritten = false

namespace Generation

variable {σ α β : Type}

/-- A generation breaks off. -/
def BreaksOff (g : Generation σ α) (s : σ) : Prop := ∃ cause, (g.run s).1 = .error (.broken cause)

theorem not_breaksOff_pure (a : α) (s : σ) : ¬ BreaksOff (pure a : Generation σ α) s := by
  rintro ⟨cause, h⟩
  cases h

theorem not_breaksOff_unsatisfiable (cause : Unsatisfiable) (s : σ) :
    ¬ BreaksOff (unsatisfiable cause : Generation σ α) s := by
  rintro ⟨broken, h⟩
  cases h

theorem breaksOff_giveUp {i : Interval} {cause : Unsatisfiable} {s : σ} :
    BreaksOff (giveUp i cause : Generation σ α) s ↔ i.isWritten = false := by
  unfold BreaksOff
  rw [run_giveUp]
  cases i.isWritten <;> simp

/-- A generation breaks off in what it begins with or in what it goes on with. -/
theorem breaksOff_bind {g : Generation σ α} {f : α → Generation σ β} {s : σ} :
    BreaksOff (g >>= f) s ↔
      BreaksOff g s ∨ ∃ a next, g.run s = (.ok a, next) ∧ BreaksOff (f a) next := by
  unfold BreaksOff
  rw [run_bind]
  cases g.run s with
  | mk result next =>
    cases result with
    | error fault =>
      constructor
      · rintro ⟨cause, h⟩
        cases h
        exact .inl ⟨cause, rfl⟩
      · rintro (⟨cause, h⟩ | ⟨_, _, h, -⟩)
        · cases h
          exact ⟨cause, rfl⟩
        · cases h
    | ok a =>
      constructor
      · exact fun h => .inr ⟨a, next, rfl, h⟩
      · rintro (⟨_, h⟩ | ⟨_, _, h, hbroken⟩)
        · cases h
        · cases h
          exact hbroken

/-- What never breaks off behind a generation makes no difference. -/
theorem breaksOff_bind_left {g : Generation σ α} {f : α → Generation σ β} {s : σ}
    (h : ∀ a next, ¬ BreaksOff (f a) next) : BreaksOff (g >>= f) s ↔ BreaksOff g s := by
  rw [breaksOff_bind]
  refine or_iff_left ?_
  rintro ⟨a, next, -, hbroken⟩
  exact h a next hbroken

theorem run_bind_pure_eq_error {g : Generation σ α} {f : α → β} {s next : σ}
    {fault : GenerationFault} :
    (g >>= fun a => pure (f a)).run s = (.error fault, next) ↔ g.run s = (.error fault, next) := by
  rw [run_bind]
  cases g.run s with
  | mk result next =>
    cases result with
    | error fault =>
      constructor
      · rintro ⟨⟩
        rfl
      · rintro ⟨⟩
        rfl
    | ok a =>
      constructor
      · rintro ⟨⟩
      · rintro ⟨⟩

/-- Another generation is tried only behind an unsatisfiable one. -/
theorem breaksOff_orElse {first second : Generation σ α} {s : σ} :
    BreaksOff (orElse first second) s ↔ BreaksOff first s ∨
      ∃ cause next, first.run s = (.error (.unsatisfiable cause), next) ∧ BreaksOff second next := by
  unfold BreaksOff
  rw [run_orElse]
  cases first.run s with
  | mk result next =>
    rcases result with (cause | cause) | a
    · constructor
      · exact fun h => .inr ⟨cause, next, rfl, h⟩
      · rintro (⟨_, h⟩ | ⟨_, _, h, hbroken⟩)
        · cases h
        · cases h
          exact hbroken
    all_goals
      refine (or_iff_left ?_).symm
      rintro ⟨_, _, h, -⟩
      cases h

/-! ## Numbers and texts -/

/-- To make a number breaks off where a search overflows, and where the interval is given up but
cannot be written. -/
theorem breaksOff_quantity {i : Interval} {s : σ} :
    BreaksOff (quantity i : Generation σ Quantity) s ↔
      i.isEmpty = false ∧ i.TooLarge ∨ i.Refused ∧ i.isWritten = false := by
  unfold quantity Interval.Refused
  cases hempty : i.isEmpty with
  | true => simp [breaksOff_giveUp]
  | false =>
    rw [← Interval.overflows_choose?_iff hempty]
    simp only [Bool.false_eq_true, if_false, true_and, false_or]
    cases i.choose? with
    | error cause =>
      exact iff_of_true ⟨.overflow cause, rfl⟩ (.inl (overflows_error _))
    | ok found? =>
      rw [or_iff_right (not_overflows_ok _)]
      cases found? with
      | none => simp [breaksOff_giveUp]
      | some found => simp [not_breaksOff_pure]

/-- Among so many texts drawn for a pattern, a drawing ends by an error that nobody takes for a reason,
and no text before it is accepted. -/
inductive DrawingBreaks (supply : TextSupply σ) (p : Pattern) : Nat → σ → Prop where
  | now {n : Nat} {s next : σ} {error : Escape} (h : supply.draw p s = (.error (.escaped error), next)) :
      DrawingBreaks supply p (n + 1) s
  | later {n : Nat} {s next : σ} {value : String} (h : supply.draw p s = (.ok value, next))
      (hrejected : p.accepts value = false) (hlater : DrawingBreaks supply p n next) :
      DrawingBreaks supply p (n + 1) s

/-- No drawing of a supply breaks off. -/
def Steady (supply : TextSupply σ) : Prop :=
  ∀ (p : Pattern) (n : Nat) (s : σ), ¬ DrawingBreaks supply p n s

theorem run_modifyGet (f : σ → α × σ) (s : σ) :
    (modifyGet f : Generation σ α).run s = (.ok (f s).1, (f s).2) := rfl

theorem run_text (supply : TextSupply σ) (p : Pattern) (s : σ) :
    (text supply p).run s = match supply.draw p s with
      | (.ok value, next) => (.ok value, next)
      | (.error (.refused reason), next) =>
        (.error (.unsatisfiable (.undrawable p.source reason)), next)
      | (.error (.escaped error), next) => (.error (.broken (.drawing error)), next) := by
  rw [text, run_bind, run_modifyGet]
  rcases supply.draw p s with ⟨(reason | error) | value, next⟩ <;> rfl

/-- To make a text breaks off where a drawing does, before a text is accepted. -/
theorem breaksOff_acceptedText {supply : TextSupply σ} {p : Pattern} {n : Nat} {s : σ} :
    BreaksOff (acceptedText supply p n) s ↔ DrawingBreaks supply p n s := by
  induction n generalizing s with
  | zero =>
    refine iff_of_false (not_breaksOff_unsatisfiable _ s) ?_
    rintro ⟨⟩
  | succ n ih =>
    rw [acceptedText, breaksOff_bind, BreaksOff, run_text]
    constructor
    · rintro (⟨cause, h⟩ | ⟨value, next, hdrawn, h⟩)
      · split at h
        · cases h
        · cases h
        · next hdraw => exact .now hdraw
      · split at hdrawn
        · next hdraw =>
          cases hdrawn
          split at h
          · exact absurd h (not_breaksOff_pure _ _)
          · next hrejected => exact .later hdraw (Bool.eq_false_iff.mpr hrejected) (ih.mp h)
        · cases hdrawn
        · cases hdrawn
    · intro h
      cases h with
      | now h =>
        rw [h]
        exact .inl ⟨_, rfl⟩
      | later h hrejected hlater =>
        rw [h]
        refine .inr ⟨_, _, rfl, ?_⟩
        rw [if_neg (Bool.eq_false_iff.mp hrejected)]
        exact ih.mpr hlater

end Generation

/-! ## What a generation asks for -/

namespace Predicate

open Generation

variable {σ : Type}

/-- What is to be made: a tree for a predicate, trees for all of some predicates, or a tree for the
first of some that can be satisfied. -/
inductive Goal where
  | one (p : Predicate)
  | all (ps : List Predicate)
  | any (ps : List Predicate)

/-- A generation for a goal asks for a tree for a predicate, in some state of the supply. -/
inductive Asks (supply : TextSupply σ) : Goal → σ → Predicate → σ → Prop where
  | here {p : Predicate} {s : σ} : Asks supply (.one p) s p s
  | group {fields : List (String × Predicate)} {negated : List (Path × Predicate)} {s t : σ}
      {q : Predicate} (h : Asks supply (.all (fields.map Prod.snd)) s q t) :
      Asks supply (.one (.group fields negated)) s q t
  | indexGroup {fields : List (Int × Predicate)} {s t : σ} {q : Predicate}
      (h : Asks supply (.all (fields.map Prod.snd)) s q t) :
      Asks supply (.one (.indexGroup fields)) s q t
  | list {quantifier : Quantifier} {elements : List Predicate} {s t : σ} {q : Predicate}
      (hsubset : quantifier ≠ .subset) (hany : quantifier ≠ .any)
      (h : Asks supply (.all elements) s q t) : Asks supply (.one (.list quantifier elements)) s q t
  | choice {elements : List Predicate} {s t : σ} {q : Predicate}
      (h : Asks supply (.any elements) s q t) : Asks supply (.one (.list .any elements)) s q t
  | first {p : Predicate} {rest : List Predicate} {s t : σ} {q : Predicate}
      (h : Asks supply (.one p) s q t) : Asks supply (.all (p :: rest)) s q t
  | later {p : Predicate} {rest : List Predicate} {s next t : σ} {sketch : Sketch} {q : Predicate}
      (hmade : (p.generate supply).run s = (.ok sketch, next))
      (h : Asks supply (.all rest) next q t) : Asks supply (.all (p :: rest)) s q t
  | firstChoice {p : Predicate} {rest : List Predicate} {s t : σ} {q : Predicate}
      (h : Asks supply (.one p) s q t) : Asks supply (.any (p :: rest)) s q t
  | laterChoice {p : Predicate} {rest : List Predicate} {s next t : σ} {cause : Unsatisfiable}
      {q : Predicate} (hfailed : (p.generate supply).run s = (.error (.unsatisfiable cause), next))
      (h : Asks supply (.any rest) next q t) : Asks supply (.any (p :: rest)) s q t

/-- A generation breaks off at a predicate itself: a number whose interval is too large or cannot be
written, or a pattern for which a drawing breaks off. -/
inductive BreaksAt (supply : TextSupply σ) : Predicate → σ → Prop where
  | large {test : NumberTest} {s : σ} (h : test.TooLarge) : BreaksAt supply (.number test) s
  | unwritable {test : NumberTest} {s : σ} (h : test.Unwritable) : BreaksAt supply (.number test) s
  | drawing {p : Pattern} {s : σ} (h : DrawingBreaks supply p supply.attempts s) :
      BreaksAt supply (.pattern p) s

variable (supply : TextSupply σ)

/-- A generation for a goal asks for something at which it breaks off. -/
def Meets (goal : Goal) (s : σ) : Prop := ∃ q t, Asks supply goal s q t ∧ BreaksAt supply q t

section Meets

variable {supply : TextSupply σ} {fields : List (String × Predicate)}
  {items : List (Int × Predicate)} {negated : List (Path × Predicate)} {quantifier : Quantifier}
  {elements : List Predicate} {s : σ}

theorem meets_number {test : NumberTest} :
    Meets supply (.one (.number test)) s ↔ test.TooLarge ∨ test.Unwritable := by
  constructor
  · rintro ⟨q, t, hasks, h⟩
    cases hasks
    cases h with
    | large h => exact .inl h
    | unwritable h => exact .inr h
  · rintro (h | h)
    · exact ⟨_, s, .here, .large h⟩
    · exact ⟨_, s, .here, .unwritable h⟩

theorem meets_pattern {p : Pattern} :
    Meets supply (.one (.pattern p)) s ↔ DrawingBreaks supply p supply.attempts s := by
  constructor
  · rintro ⟨q, t, hasks, h⟩
    cases hasks
    cases h with
    | drawing h => exact h
  · exact fun h => ⟨_, s, .here, .drawing h⟩

theorem not_meets_text {value : String} : ¬ Meets supply (.one (.text value)) s := by
  rintro ⟨q, t, hasks, h⟩
  cases hasks
  cases h

theorem meets_group :
    Meets supply (.one (.group fields negated)) s ↔ Meets supply (.all (fields.map Prod.snd)) s := by
  constructor
  · rintro ⟨q, t, hasks, h⟩
    cases hasks with
    | here => cases h
    | group hasks => exact ⟨q, t, hasks, h⟩
  · rintro ⟨q, t, hasks, h⟩
    exact ⟨q, t, .group hasks, h⟩

theorem meets_indexGroup :
    Meets supply (.one (.indexGroup items)) s ↔ Meets supply (.all (items.map Prod.snd)) s := by
  constructor
  · rintro ⟨q, t, hasks, h⟩
    cases hasks with
    | here => cases h
    | indexGroup hasks => exact ⟨q, t, hasks, h⟩
  · rintro ⟨q, t, hasks, h⟩
    exact ⟨q, t, .indexGroup hasks, h⟩

theorem not_meets_subset : ¬ Meets supply (.one (.list .subset elements)) s := by
  rintro ⟨q, t, hasks, h⟩
  cases hasks with
  | here => cases h
  | list hsubset => exact hsubset rfl

theorem meets_any :
    Meets supply (.one (.list .any elements)) s ↔ Meets supply (.any elements) s := by
  constructor
  · rintro ⟨q, t, hasks, h⟩
    cases hasks with
    | here => cases h
    | list _ hany => exact absurd rfl hany
    | choice hasks => exact ⟨q, t, hasks, h⟩
  · rintro ⟨q, t, hasks, h⟩
    exact ⟨q, t, .choice hasks, h⟩

theorem meets_list (hsubset : quantifier ≠ .subset) (hany : quantifier ≠ .any) :
    Meets supply (.one (.list quantifier elements)) s ↔ Meets supply (.all elements) s := by
  constructor
  · rintro ⟨q, t, hasks, h⟩
    cases hasks with
    | here => cases h
    | list _ _ hasks => exact ⟨q, t, hasks, h⟩
    | choice => exact absurd rfl hany
  · rintro ⟨q, t, hasks, h⟩
    exact ⟨q, t, .list hsubset hany hasks, h⟩

theorem not_meets_nil : ¬ Meets supply (.all []) s := by
  rintro ⟨q, t, hasks, -⟩
  cases hasks

theorem not_meets_anyNil : ¬ Meets supply (.any []) s := by
  rintro ⟨q, t, hasks, -⟩
  cases hasks

theorem meets_cons {p : Predicate} {rest : List Predicate} :
    Meets supply (.all (p :: rest)) s ↔ Meets supply (.one p) s ∨
      ∃ sketch next, (p.generate supply).run s = (.ok sketch, next) ∧
        Meets supply (.all rest) next := by
  constructor
  · rintro ⟨q, t, hasks, h⟩
    cases hasks with
    | first hasks => exact .inl ⟨q, t, hasks, h⟩
    | later hmade hasks => exact .inr ⟨_, _, hmade, q, t, hasks, h⟩
  · rintro (⟨q, t, hasks, h⟩ | ⟨sketch, next, hmade, q, t, hasks, h⟩)
    · exact ⟨q, t, .first hasks, h⟩
    · exact ⟨q, t, .later hmade hasks, h⟩

theorem meets_anyCons {p : Predicate} {rest : List Predicate} :
    Meets supply (.any (p :: rest)) s ↔ Meets supply (.one p) s ∨
      ∃ cause next, (p.generate supply).run s = (.error (.unsatisfiable cause), next) ∧
        Meets supply (.any rest) next := by
  constructor
  · rintro ⟨q, t, hasks, h⟩
    cases hasks with
    | firstChoice hasks => exact .inl ⟨q, t, hasks, h⟩
    | laterChoice hfailed hasks => exact .inr ⟨_, _, hfailed, q, t, hasks, h⟩
  · rintro (⟨q, t, hasks, h⟩ | ⟨cause, next, hfailed, q, t, hasks, h⟩)
    · exact ⟨q, t, .firstChoice hasks, h⟩
    · exact ⟨q, t, .laterChoice hfailed hasks, h⟩

end Meets

/-! ## Generations part by part -/

theorem generateFields_eq (fields : List (String × Predicate)) :
    generateFields supply fields =
      (fields.map Prod.fst).zip <$> generateElements supply (fields.map Prod.snd) := by
  induction fields with
  | nil => simp [generateFields, generateElements]
  | cons f rest ih => simp [generateFields, generateElements, ih]

theorem generateItems_eq (fields : List (Int × Predicate)) :
    generateItems supply fields =
      (fields.map Prod.fst).zip <$> generateElements supply (fields.map Prod.snd) := by
  induction fields with
  | nil => simp [generateItems, generateElements]
  | cons f rest ih => simp [generateItems, generateElements, ih]

variable {supply}

/-- All of some predicates, if each of them breaks off exactly where it meets a reason to. -/
theorem breaksOff_generateElements {ps : List Predicate}
    (ih : ∀ p ∈ ps, ∀ s, BreaksOff (p.generate supply) s ↔ Meets supply (.one p) s) (s : σ) :
    BreaksOff (generateElements supply ps) s ↔ Meets supply (.all ps) s := by
  induction ps generalizing s with
  | nil =>
    rw [generateElements]
    exact iff_of_false (not_breaksOff_pure _ s) not_meets_nil
  | cons p rest ihrest =>
    rw [List.forall_mem_cons] at ih
    rw [generateElements, breaksOff_bind, ih.1, meets_cons]
    refine or_congr Iff.rfl (exists_congr fun sketch => exists_congr fun next => ?_)
    refine and_congr Iff.rfl ?_
    rw [breaksOff_bind_left fun _ _ => not_breaksOff_pure _ _, ihrest ih.2]

theorem generateAny_cons (p : Predicate) (rest : List Predicate) :
    generateAny supply (p :: rest) =
      orElse
        (do
          let sketch ← generate supply p
          return [sketch])
        (if rest.isEmpty then unsatisfiable .noElement else generateAny supply rest) := by
  cases rest <;> rw [generateAny] <;> rfl

/-- A list that asks for any of its elements goes on behind an unsatisfiable one. -/
theorem breaksOff_generateAny_cons {p : Predicate} {rest : List Predicate} {s : σ} :
    BreaksOff (generateAny supply (p :: rest)) s ↔ BreaksOff (p.generate supply) s ∨
      ∃ cause next, (p.generate supply).run s = (.error (.unsatisfiable cause), next) ∧
        BreaksOff (generateAny supply rest) next := by
  rw [generateAny_cons, breaksOff_orElse, breaksOff_bind_left fun _ _ => not_breaksOff_pure _ _]
  refine or_congr Iff.rfl (exists_congr fun cause => exists_congr fun next => ?_)
  refine and_congr run_bind_pure_eq_error ?_
  cases rest with
  | nil =>
    rw [generateAny]
    exact iff_of_false (not_breaksOff_unsatisfiable _ next) (not_breaksOff_pure _ next)
  | cons q others => rfl

theorem breaksOff_generateAny {ps : List Predicate}
    (ih : ∀ p ∈ ps, ∀ s, BreaksOff (p.generate supply) s ↔ Meets supply (.one p) s) (s : σ) :
    BreaksOff (generateAny supply ps) s ↔ Meets supply (.any ps) s := by
  induction ps generalizing s with
  | nil =>
    rw [generateAny]
    exact iff_of_false (not_breaksOff_pure _ s) not_meets_anyNil
  | cons p rest ihrest =>
    rw [List.forall_mem_cons] at ih
    rw [breaksOff_generateAny_cons, ih.1, meets_anyCons]
    exact or_congr Iff.rfl (exists_congr fun cause => exists_congr fun next =>
      and_congr Iff.rfl (ihrest ih.2 next))

/-- A generation breaks off exactly if it asks for something at which it does. -/
theorem breaksOff_generate_iff (p : Predicate) (s : σ) :
    BreaksOff (p.generate supply) s ↔ Meets supply (.one p) s := by
  induction p generalizing s with
  | group fields negated ihf _ =>
    rw [generate, meets_group, ← breaksOff_generateElements (List.forall_mem_map.mpr ihf),
      generateFields_eq, map_eq_pure_bind]
    refine (breaksOff_bind_left fun entries next => ?_).trans
      (breaksOff_bind_left fun _ _ => not_breaksOff_pure _ _)
    dsimp only
    split
    · exact not_breaksOff_pure _ next
    · exact not_breaksOff_unsatisfiable _ next
  | indexGroup fields ihf =>
    rw [generate, meets_indexGroup, ← breaksOff_generateElements (List.forall_mem_map.mpr ihf),
      generateItems_eq, map_eq_pure_bind]
    exact (breaksOff_bind_left fun _ _ => not_breaksOff_pure _ _).trans
      (breaksOff_bind_left fun _ _ => not_breaksOff_pure _ _)
  | number test =>
    rw [generate, meets_number, breaksOff_bind_left fun _ _ => not_breaksOff_pure _ _,
      breaksOff_quantity]
    rfl
  | text value =>
    rw [generate]
    exact iff_of_false (not_breaksOff_pure _ s) not_meets_text
  | pattern p =>
    rw [generate, meets_pattern, breaksOff_bind_left fun _ _ => not_breaksOff_pure _ _,
      breaksOff_acceptedText]
  | list quantifier elements ih =>
    cases quantifier with
    | subset =>
      rw [generate]
      exact iff_of_false (not_breaksOff_pure _ s) not_meets_subset
    | any =>
      rw [generate, meets_any, ← breaksOff_generateAny ih]
      exact breaksOff_bind_left fun _ _ => not_breaksOff_pure _ _
    | _ =>
      rw [meets_list (by decide) (by decide), ← breaksOff_generateElements ih]
      unfold generate
      exact breaksOff_bind_left fun _ _ => not_breaksOff_pure _ _

end Predicate

end TreePredicate
