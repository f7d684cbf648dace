import TreePredicate.Proofs.Generation.Bounded
import TreePredicate.Proofs.Generation.Missed

/-!
# Tests that are refused

A test of a number is refused as unsatisfiable if its interval is empty or the search for a number
finds nothing, unless the interval has too many digits to be written. That nothing satisfies the test
then follows only if the search misses no number.

* `NumberTest.Satisfiable` : some number of the declared width satisfies a test;
* `Predicate.refused_number_iff` : when a test is refused;
* `Predicate.unsatisfied_or_mayMiss` : a test that is refused is not satisfiable, or its interval is
  one in which a search may miss a number;
* `Predicate.Missed` : tests, as they stand in a text, that are refused although they are
  satisfiable.
-/

set_option autoImplicit false

namespace TreePredicate

namespace NumberTest

/-- The width that a test declares. -/
def width? : NumberTest → Option Width
  | .equals _ width? | .range _ _ _ _ width? | .compare _ _ width? => width?

/-- A number satisfies a test, of the width that it declares or of any if it declares none. -/
def Satisfiable (test : NumberTest) : Prop :=
  ∃ q : Quantity, (∀ width, test.width? = some width → q.width = width) ∧
    (Predicate.number test).evaluate (.number q) = .ok true

end NumberTest

theorem Interval.ofTest_width? (test : NumberTest) : (ofTest test).width? = test.width? := by
  cases test with
  | compare comparison value width? => cases comparison <;> rfl
  | _ => rfl

namespace Predicate

/-! ## Refused tests -/

section Refused

variable {σ : Type} {supply : TextSupply σ} {s : σ} {test : NumberTest}

/-- A test is refused exactly if its interval is empty or a search finds nothing, and the interval can
be written to say so. -/
theorem refused_number_iff :
    (∃ cause, (((Predicate.number test).generate supply).run s).1 =
        .error (.unsatisfiable cause)) ↔
      (Interval.ofTest test).Refused ∧ (Interval.ofTest test).isWritten = true := by
  rw [generate, Generation.run_bind, Generation.quantity, Interval.Refused]
  by_cases hempty : (Interval.ofTest test).isEmpty = true
  · rw [if_pos hempty, Generation.run_giveUp]
    cases (Interval.ofTest test).isWritten <;> simp [hempty]
  · rw [if_neg hempty, or_iff_right hempty]
    cases (Interval.ofTest test).choose? with
    | error cause =>
      refine iff_of_false ?_ (fun h => by cases h.1)
      rintro ⟨unsatisfiable, h⟩
      cases h
    | ok found? =>
      cases found? with
      | none =>
        rw [Generation.run_giveUp]
        cases (Interval.ofTest test).isWritten <;> simp
      | some q =>
        refine iff_of_false ?_ (fun h => by cases h.1)
        rintro ⟨unsatisfiable, h⟩
        cases h

end Refused

/-! ## What follows from a refusal -/

/-- Single precision numbers behind steps that are too short for them. -/
def farSingles : NumberTest := .compare .above (.int 300000000) (some .float)

/-- A test that is refused as unsatisfiable is satisfied by no number of the width that it declares,
or of any width if it declares none, unless its interval is one in which a search may miss a number.
This holds of every test, and so of those in any predicate that is read from a text. -/
theorem unsatisfied_or_mayMiss {σ : Type} (supply : TextSupply σ) (s : σ) (test : NumberTest)
    {cause : Unsatisfiable}
    (h : (((Predicate.number test).generate supply).run s).1 = .error (.unsatisfiable cause)) :
    ¬ test.Satisfiable ∨ ∃ course, (Interval.ofTest test).course? = some course ∧
      (Interval.ofTest test).MayMiss course := by
  refine Classical.or_iff_not_imp_left.mpr fun hsatisfiable => ?_
  obtain ⟨q, hkind, hq⟩ := Classical.not_not.mp hsatisfiable
  rw [evaluate, evaluateNumber_eq, Except.ok.injEq] at hq
  rcases (refused_number_iff.mp ⟨cause, h⟩).1 with hempty | hnone
  · rw [Interval.holds_eq_false_of_isEmpty hempty] at hq
    cases hq
  · exact Interval.mayMiss_of_choose? hnone (Interval.ofTest_width? test ▸ hkind) hq

/-- Steps from `300000000` are too short for single precision, so that all numbers above it are
missed. -/
theorem unsatisfied_or_mayMiss_farSingles :
    ∃ cause, TreePredicate.generate (.number farSingles) = .error (.unsatisfiable cause) ∧
      (¬ farSingles.Satisfiable ∨ ∃ course, (Interval.ofTest farSingles).course? = some course ∧
        (Interval.ofTest farSingles).MayMiss course) := by
  obtain ⟨cause, hcause⟩ := refused_number_iff.mpr
    ⟨.inr (by decide +kernel : (Interval.ofTest farSingles).choose? = .ok none), by decide +kernel⟩
  exact ⟨cause, hcause, unsatisfied_or_mayMiss _ _ farSingles hcause⟩

/-! ## Tests that are missed -/

/-- The limit of a byte behind a start with a fraction. -/
def byteLimit : NumberTest :=
  .range (some (.double (.ofRatio false 1263 10))) (some (.double (.ofRatio false 1272 10)))
    false false (some .byte)

/-- An integer between two doubles. -/
def betweenDoubles : NumberTest :=
  .range (some (.double (.ofRatio false (2 ^ 53) 1))) (some (.int (2 ^ 53 + 2))) false false none

/-- Doubles behind steps that are too short for them. -/
def farDoubles : NumberTest := .compare .above (.int (10 ^ 18)) (some .double)

/-- The only double between two ends of which one is rounded to it. -/
def lastDouble : NumberTest :=
  .range (some (.double (.ofRatio false (2 ^ 58) 1))) (some (.int (2 ^ 58 + 65))) false false
    (some .double)

/-- The second of two neighbouring single precision numbers, before an end that is excluded. -/
def nextSingle : NumberTest :=
  .range (some (.int 1)) (some (.double (.ofRatio false 100000011920928978 (10 ^ 17)))) false false
    (some .float)

/-- A test as it stands in a text. -/
def inField (test : NumberTest) : Predicate := .group [("x", .number test)] []

/-- A test is read from a text and is refused as unsatisfiable, though a number satisfies it. -/
def Missed (text : String) (test : NumberTest) : Prop :=
  Notation.parse text = .ok (inField test) ∧
    (∃ cause, TreePredicate.generate (.number test) = .error (.unsatisfiable cause)) ∧
      test.Satisfiable

theorem parse_inField {test : NumberTest} (h : ∀ n ∈ testNumbers test, n.Readable) :
    Notation.parse (Notation.printed (inField test)) = .ok (inField test) := by
  refine Notation.parse_printed ?_ ?_ ?_
  · simpa [everywhere_group, everywhere_number, Regular, Table.Distinct] using h
  · simp [depth, fieldsDepth, negatedDepth, Notation.nestingLimit]
  · simp [everywhere_group, everywhere_number, Notation.ShortBareKeys, bareKeys, ShortKey]
    decide

/-- A test is missed if its numbers can be read, no candidate is inside and a quantity is. -/
theorem missed_of {text : String} {test : NumberTest}
    (htext : Notation.printed (inField test) = text)
    (hreadable : ∀ n ∈ testNumbers test, n.Readable)
    (hnone : (Interval.ofTest test).choose? = .ok none) (q : Quantity)
    (hkind : test.width? = none ∨ test.width? = some q.width)
    (hholds : (Interval.ofTest test).holds q.value = true) : Missed text test := by
  have hwritten := Interval.isWritten_ofTest fun n hn => hreadable (.int n) hn
  refine ⟨htext ▸ parse_inField hreadable, refused_number_iff.mpr ⟨.inr hnone, hwritten⟩, q, ?_, ?_⟩
  · intro width hwidth
    rcases hkind with h | h <;> rw [h] at hwidth <;> cases hwidth
    rfl
  · rw [evaluate, evaluateNumber_eq, hholds]

/-- Each way to miss a number happens. -/
theorem missed_tests :
    Missed "\x7bx: (126.3~127.2)b\x7d" byteLimit ∧
      Missed "\x7bx: (9007199254740992.0~9007199254740994)\x7d" betweenDoubles ∧
      Missed "\x7bx: > 1000000000000000000d\x7d" farDoubles ∧
      Missed "\x7bx: (2.8823037615171174e+17~288230376151711809)d\x7d" lastDouble ∧
      Missed "\x7bx: > 300000000f\x7d" farSingles ∧
      Missed "\x7bx: (1~1.0000001192092898)f\x7d" nextSingle := by
  refine ⟨?byteLimit, ?betweenDoubles, ?farDoubles, ?lastDouble, ?farSingles, ?nextSingle⟩
  case byteLimit =>
    exact missed_of (by decide +kernel) (by decide +kernel) (by decide +kernel)
      ⟨.byte, .int 127, .int 127, by decide +kernel⟩ (.inr rfl) (by decide +kernel)
  case betweenDoubles =>
    exact missed_of (by decide +kernel) (by decide +kernel) (by decide +kernel)
      ⟨.long, .int (2 ^ 53 + 1), .int (2 ^ 53 + 1), by decide +kernel⟩ (.inl rfl) (by decide +kernel)
  case farDoubles =>
    exact missed_of (by decide +kernel) (by decide +kernel) (by decide +kernel)
      ⟨.double, .double (.ofRatio false (10 ^ 18 + 128) 1), .int (10 ^ 18 + 128), by decide +kernel⟩
      (.inr rfl) (by decide +kernel)
  case lastDouble =>
    exact missed_of (by decide +kernel) (by decide +kernel) (by decide +kernel)
      ⟨.double, .double (.ofRatio false (2 ^ 58 + 64) 1), .int (2 ^ 58 + 64), by decide +kernel⟩
      (.inr rfl) (by decide +kernel)
  case farSingles =>
    exact missed_of (by decide +kernel) (by decide +kernel) (by decide +kernel)
      ⟨.float, .double (.ofRatio false 300000032 1), .int 300000032, by decide +kernel⟩
      (.inr rfl) (by decide +kernel)
  case nextSingle =>
    exact missed_of (by decide +kernel) (by decide +kernel) (by decide +kernel)
      ⟨.float, .double (.ofRatio false (2 ^ 23 + 1) (2 ^ 23)),
        .double (.ofRatio false (2 ^ 23 + 1) (2 ^ 23)), by decide +kernel⟩
      (.inr rfl) (by decide +kernel)

end Predicate

end TreePredicate
