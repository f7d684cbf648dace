import TreePredicate.Proofs.Generation.Breakdown
import TreePredicate.Proofs.Notation.Print

/-!
# How generations end

The ends of the interval of a test are numbers of the test, doubles that they are rounded to, or
infinite. So what is said of the integers that stand in a predicate holds of each interval on the way
of a generation: it can be written if they can be read, and no search overflows if they are small.

* `Interval.mem_of_low`, `Interval.mem_of_high` : an end that is an integer is a number of the test;
* `Interval.isWritten_ofTest` : an interval can be written if the integers of its test can be read;
* `Predicate.Asks.everywhere` : what a generation asks for stands in its predicate;
* `TreeOrReason`, `treeOrReason_of_small` : a generation between small integers ends with a tree or with
  the reason for which there is none, unless a drawing breaks off;
* `Settings.draw_eq_escaped_iff` : the drawings that break off under some settings;
* `generate_or_unsatisfiable_iff` : when a generation ends as it should.
-/

set_option autoImplicit false

namespace TreePredicate

namespace Interval

theorem eq_int_of_held {value : Number} {width? : Option Width} {n : Int}
    (h : held value width? = .int n) : value = .int n := by
  unfold held at h
  split at h
  · cases h
  · exact h

theorem eq_int_of_min {value : Number} {width? : Option Width} {n : Int}
    (h : value.min (held value width?) = .int n) : value = .int n := by
  unfold Number.min at h
  split at h
  · exact eq_int_of_held h
  · exact h

theorem eq_int_of_max {value : Number} {width? : Option Width} {n : Int}
    (h : value.max (held value width?) = .int n) : value = .int n := by
  unfold Number.max at h
  split at h
  · exact eq_int_of_held h
  · exact h

theorem mem_of_lowOf {lower? : Option Number} {n : Int} (h : lowOf lower? = .int n) :
    .int n ∈ lower?.toList := by
  cases lower? with
  | none => cases h
  | some lower => exact List.mem_singleton.mpr h.symm

theorem mem_of_highOf {upper? : Option Number} {n : Int} (h : highOf upper? = .int n) :
    .int n ∈ upper?.toList := by
  cases upper? with
  | none => cases h
  | some upper => exact List.mem_singleton.mpr h.symm

/-- A lower end that is an integer is a number of the test. -/
theorem mem_of_low {test : NumberTest} {n : Int} (h : (ofTest test).low = .int n) :
    .int n ∈ Predicate.testNumbers test := by
  cases test with
  | equals value width? => exact List.mem_singleton.mpr (eq_int_of_min h).symm
  | range lower? upper? lowerIncluded upperIncluded width? =>
    exact List.mem_append_left _ (mem_of_lowOf (eq_int_of_min h))
  | compare comparison value width? =>
    cases comparison with
    | atLeast | above => exact mem_of_lowOf (eq_int_of_min h)
    | atMost | below =>
      have hmem : .int n ∈ (none : Option Number).toList := mem_of_lowOf (eq_int_of_min h)
      cases hmem

/-- An upper end that is an integer is a number of the test. -/
theorem mem_of_high {test : NumberTest} {n : Int} (h : (ofTest test).high = .int n) :
    .int n ∈ Predicate.testNumbers test := by
  cases test with
  | equals value width? => exact List.mem_singleton.mpr (eq_int_of_max h).symm
  | range lower? upper? lowerIncluded upperIncluded width? =>
    exact List.mem_append_right _ (mem_of_highOf (eq_int_of_max h))
  | compare comparison value width? =>
    cases comparison with
    | atMost | below => exact mem_of_highOf (eq_int_of_max h)
    | atLeast | above =>
      have hmem : .int n ∈ (none : Option Number).toList := mem_of_highOf (eq_int_of_max h)
      cases hmem

end Interval

/-! ## Numbers that can be written -/

theorem Number.isWritten_of_readable {value : Number} (h : value.Readable) : value.isWritten = true := by
  rw [Number.isWritten, Notation.printNumber_of_readable h]
  rfl

theorem Number.isWritten_double (d : Double) : (Number.double d).isWritten = true := rfl

/-- An interval can be written if the integers of its test can be read. -/
theorem Interval.isWritten_ofTest {test : NumberTest}
    (h : ∀ n : Int, .int n ∈ Predicate.testNumbers test → (Number.int n).Readable) :
    (ofTest test).isWritten = true := by
  rw [isWritten, Bool.and_eq_true]
  constructor
  · cases hlow : (ofTest test).low with
    | int n => exact Number.isWritten_of_readable (h n (mem_of_low hlow))
    | double d => exact Number.isWritten_double d
  · cases hhigh : (ofTest test).high with
    | int n => exact Number.isWritten_of_readable (h n (mem_of_high hhigh))
    | double d => exact Number.isWritten_double d

theorem NumberTest.not_unwritable {test : NumberTest}
    (h : ∀ n : Int, .int n ∈ Predicate.testNumbers test → (Number.int n).Readable) :
    ¬ test.Unwritable := by
  rintro ⟨-, hnot⟩
  rw [Interval.isWritten_ofTest h] at hnot
  cases hnot

/-! ## Drawings under settings -/

/-- Under some settings a drawing ends by an error that nobody takes for a reason where there is no room
for it, and where it comes to a choice from an empty set. -/
theorem Settings.draw_eq_escaped_iff [Room] (settings : Settings) {p : Pattern}
    {dice next : Pattern.Dice} {error : Escape} :
    settings.supply.draw p dice = (.error (.escaped error), next) ↔
      Room.draws p.source dice = false ∧ error = .tooDeep ∧ next = dice ∨
        Room.draws p.source dice = true ∧ error = .emptyChoice ∧
          p.draw dice = (.error .emptySet, next) := by
  have hdraw : settings.supply.draw p dice =
      if Room.draws p.source dice = true then ((p.draw dice).1.mapError drawFault, (p.draw dice).2)
      else (.error (.escaped .tooDeep), dice) := rfl
  rw [hdraw]
  cases Room.draws p.source dice with
  | false =>
    constructor
    · rintro ⟨⟩
      exact .inl ⟨rfl, rfl, rfl⟩
    · rintro (⟨-, rfl, rfl⟩ | ⟨⟨⟩, -⟩)
      rfl
  | true =>
    rw [if_pos rfl]
    obtain ⟨refusal | value, after⟩ := p.draw dice
    · constructor
      · intro h
        cases refusal <;> cases h
        exact .inr ⟨rfl, rfl, rfl⟩
      · rintro (⟨⟨⟩, -⟩ | ⟨-, rfl, ⟨⟩⟩)
        rfl
    · constructor
      · rintro ⟨⟩
      · rintro (⟨⟨⟩, -⟩ | ⟨-, -, ⟨⟩⟩)

example : (match Pattern.compile "[^\\s\\S]" with
    | .ok p => (generate (.pattern p) matches .error (.broken (.drawing .emptyChoice)))
    | .error _ => false) = true := by
  decide +kernel

namespace Predicate

open Generation

variable {σ : Type} {supply : TextSupply σ}

/-! ## What stands in a predicate -/

/-- The predicates for which trees are to be made. -/
def Goal.predicates : Goal → List Predicate
  | .one p => [p]
  | .all ps => ps
  | .any ps => ps

/-- What holds everywhere inside the predicates of a goal holds everywhere inside those that it asks
for. -/
theorem Asks.everywhere {P : Predicate → Prop} {goal : Goal} {s t : σ} {q : Predicate}
    (h : Asks supply goal s q t) (hgoal : ∀ p ∈ goal.predicates, Everywhere P p) : Everywhere P q := by
  induction h with
  | here => exact hgoal _ List.mem_cons_self
  | group _ ih =>
    obtain ⟨-, hfields, -⟩ := everywhere_group.mp (hgoal _ List.mem_cons_self)
    exact ih (List.forall_mem_map.mpr hfields)
  | indexGroup _ ih =>
    obtain ⟨-, hfields⟩ := everywhere_indexGroup.mp (hgoal _ List.mem_cons_self)
    exact ih (List.forall_mem_map.mpr hfields)
  | list _ _ _ ih => exact ih (everywhere_list.mp (hgoal _ List.mem_cons_self)).2
  | choice _ ih => exact ih (everywhere_list.mp (hgoal _ List.mem_cons_self)).2
  | first _ ih => exact ih (List.forall_mem_singleton.mpr (hgoal _ List.mem_cons_self))
  | later _ _ ih => exact ih fun p hp => hgoal p (List.mem_cons_of_mem _ hp)
  | firstChoice _ ih => exact ih (List.forall_mem_singleton.mpr (hgoal _ List.mem_cons_self))
  | laterChoice _ _ ih => exact ih fun p hp => hgoal p (List.mem_cons_of_mem _ hp)

theorem Asks.everywhere_one {P : Predicate → Prop} {p q : Predicate} {s t : σ}
    (h : Asks supply (.one p) s q t) (hp : Everywhere P p) : P q :=
  (h.everywhere (List.forall_mem_singleton.mpr hp)).here

/-! ## Small integers -/

/-- The integers of a test are small. -/
def SmallIntegers : Predicate → Prop
  | .number test => ∀ n : Int, .int n ∈ testNumbers test → n.natAbs < 2 ^ 1000
  | _ => True

theorem two_pow_le_greatestInteger : 2 ^ 1000 ≤ greatestInteger := by decide +kernel

theorem not_tooLarge_of_small {test : NumberTest} (h : SmallIntegers (.number test)) :
    ¬ test.TooLarge := by
  rintro ⟨-, hlarge⟩
  refine Interval.not_tooLarge (fun n hn => ?_) (fun n hn => ?_) hlarge
  · exact Nat.lt_of_lt_of_le (h n (Interval.mem_of_low hn)) two_pow_le_greatestInteger
  · exact Nat.lt_of_lt_of_le (h n (Interval.mem_of_high hn)) two_pow_le_greatestInteger

theorem not_unwritable_of_small {test : NumberTest} (h : SmallIntegers (.number test)) :
    ¬ test.Unwritable := by
  refine NumberTest.not_unwritable fun n hn => ?_
  have hlt : n.natAbs < 10 ^ Pattern.Fault.digitsAllowed :=
    Nat.lt_trans (h n hn) (by decide +kernel)
  exact (Decimal.length_le_iff (by decide)).mpr hlt

/-- A generation ended with a tree or with the reason for which there is none. -/
def TreeOrReason (result : Except GenerationFault Sketch) : Prop :=
  (∃ sketch, result = .ok sketch) ∨ ∃ cause, result = .error (.unsatisfiable cause)

theorem treeOrReason_iff {p : Predicate} {s : σ} :
    TreeOrReason ((p.generate supply).run s).1 ↔ ¬ Meets supply (.one p) s := by
  rw [← breaksOff_generate_iff]
  unfold TreeOrReason BreaksOff
  rcases ((p.generate supply).run s).1 with (cause | cause) | sketch <;> simp

/-- Between small integers a generation ends with a tree or with the reason for which there is none,
unless a drawing breaks off. -/
theorem treeOrReason_of_small (hsteady : Steady supply) {p : Predicate}
    (h : Everywhere SmallIntegers p) (s : σ) : TreeOrReason ((p.generate supply).run s).1 := by
  rw [treeOrReason_iff]
  rintro ⟨q, t, hasks, hbreaks⟩
  have hsmall := hasks.everywhere_one h
  cases hbreaks with
  | large hlarge => exact not_tooLarge_of_small hsmall hlarge
  | unwritable hnot => exact not_unwritable_of_small hsmall hnot
  | drawing hdrawing => exact hsteady _ _ _ hdrawing

/-! ## Predicates of texts -/

/-- A generation ends with a tree or with the reason for which there is none, exactly if it asks for
nothing at which it breaks off: no number whose interval is too large or cannot be written, and no
pattern for which a drawing breaks off. This holds whatever the supply does, and in particular under
any settings. What is asked for on behalf of a predicate that is read from a text can always be
written. A list that asks for any of its elements falls back on the next one exactly if one cannot be
satisfied. -/
theorem generate_or_unsatisfiable_iff (p : Predicate) :
    (∀ {σ : Type} (supply : TextSupply σ) (s : σ), TreeOrReason ((p.generate supply).run s).1 ↔
      ¬ ∃ q t, Asks supply (.one p) s q t ∧ BreaksAt supply q t) ∧
    (∀ [Room] (settings : Settings), TreeOrReason (TreePredicate.generate p settings) ↔
      ¬ ∃ q t, Asks settings.supply (.one p) settings.dice q t ∧ BreaksAt settings.supply q t) ∧
    (∀ [Room] (text : String), Notation.parse text = .ok p →
      ∀ {σ : Type} (supply : TextSupply σ) (s t : σ) (test : NumberTest),
        Asks supply (.one p) s (.number test) t → ¬ test.Unwritable) ∧
    ∀ {σ : Type} (supply : TextSupply σ) (s : σ) (second : Predicate) (rest : List Predicate),
      ((Predicate.list .any (p :: second :: rest)).generate supply).run s =
        match (p.generate supply).run s with
        | (.ok sketch, next) => (.ok (.list [sketch]), next)
        | (.error (.unsatisfiable _), next) =>
          ((Predicate.list .any (second :: rest)).generate supply).run next
        | (.error (.broken cause), next) => (.error (.broken cause), next) := by
  refine ⟨fun supply s => treeOrReason_iff, fun settings => treeOrReason_iff, ?_, ?_⟩
  · intro _ text hparse σ supply s t test hasks
    obtain ⟨-, hregular, -⟩ := Notation.fits_of_parse hparse
    exact NumberTest.not_unwritable fun n hn => hasks.everywhere_one hregular _ hn
  · intro σ supply s second rest
    rw [generate, generate, generateAny_cons, run_bind, run_orElse, run_bind]
    cases (p.generate supply).run s with
    | mk result next =>
      rcases result with (cause | cause) | sketch
      · exact (run_bind _ _ next).symm
      · rfl
      · rfl

/-- A group with a list that asks for an integer too large for a double or for one. -/
def largeOrOne : Predicate :=
  .group [("x", .list .any
    [.number (.equals (.int (10 ^ 400)) none), .number (.equals (.int 1) none)])] []

theorem parse_largeOrOne : Notation.parse (Notation.printed largeOrOne) = .ok largeOrOne := by
  have hreadable : ∀ n ∈ [10 ^ 400, (1 : Int)], (Number.int n).Readable := by
    unfold Number.Readable
    decide +kernel
  refine Notation.parse_printed ?_ (by decide) ?_
  · generalize (10 : Int) ^ 400 = n at hreadable
    simp [everywhere_group, everywhere_list, everywhere_number, Regular, Table.Distinct, testNumbers,
      Notation.isIndexGroup, hreadable]
  · generalize (10 : Int) ^ 400 = n at hreadable
    simp [everywhere_group, everywhere_list, everywhere_number, Notation.ShortBareKeys, bareKeys, ShortKey]
    decide

/-- A number that is too large ends a list that asks for it or for something else. -/
theorem generate_any_of_tooLarge {test : NumberTest} (h : test.TooLarge) (second : Predicate)
    (settings : Settings) : ∃ cause,
      TreePredicate.generate (.group [("x", .list .any [.number test, second])] []) settings =
        .error (.broken (.overflow cause)) := by
  obtain ⟨cause, hcause⟩ := (Interval.overflows_choose?_iff h.1).mpr h.2
  refine ⟨cause, ?_⟩
  unfold TreePredicate.generate
  simp only [generate, generateFields, generateAny, quantity, h.1, hcause, run_bind, run_orElse,
    Bool.false_eq_true, if_false]
  rfl

/-- An overflow is neither a tree nor a reason, and the list does not fall back on one. -/
theorem generate_largeOrOne_overflows :
    Notation.parse (Notation.printed largeOrOne) = .ok largeOrOne ∧
      ∃ cause, TreePredicate.generate largeOrOne {} = .error (.broken (.overflow cause)) := by
  have hlarge : NumberTest.TooLarge (.equals (.int (10 ^ 400)) none) :=
    ⟨by decide +kernel, ⟨.int (10 ^ 400), .int (10 ^ 400), true, true, false⟩, by decide +kernel,
      .inl (.inl ⟨10 ^ 400, rfl, by decide +kernel⟩)⟩
  exact ⟨parse_largeOrOne, generate_any_of_tooLarge hlarge _ _⟩

end Predicate

end TreePredicate
