import TreePredicate.Assertion.Verdict
import TreePredicate.Proofs.Node.Same
import TreePredicate.Proofs.Notation.Print
import TreePredicate.Proofs.Predicate.Evaluate

/-!
# Assertions agree with checks

An assertion reads its predicate through a store that has seen other assertions, and writes a message
if it fails. Neither changes what it comes to: it passes where the check of the same text and value
says yes, fails where it says no, and raises what the check raises.

* `Value.print_eq` : a tree can be written, as its integers are small;
* `AssertionFault.print_mismatch` : so the message of a mismatch can, if its predicate was read from a
  text;
* `Verdict.Agrees` : what an assertion comes to is what the check comes to; `Verdict.agrees_assert` :
  so it is for a predicate that was read from the text of the check;
* `Store.Lawful.read_assert`, `read_assertAll` : a store has nothing but what was read after an
  assertion, and by induction after any number of them;
* `assert_agrees` : so an assertion agrees with the check, whatever came before.
-/

set_option autoImplicit false

namespace TreePredicate

/-! ## Messages -/

/-- An integer in a tree has few digits. -/
theorem Notation.printNumber_quantity (quantity : Quantity) :
    printNumber quantity.value = .ok quantity.value.text := by
  cases h : quantity.value with
  | int n =>
    have hle := Quantity.natAbs_le h
    have hlength : Decimal.length n.natAbs ≤ 19 :=
      (Decimal.length_le_iff (by decide)).mpr (Nat.lt_of_le_of_lt hle (by decide))
    have hwritten : isWritten n = true := decide_eq_true (Nat.le_trans hlength (by decide))
    rw [printNumber, if_pos hwritten]
  | double d => rfl

namespace Value

theorem printEntries_eq {entries : List (String × Node)}
    (h : ∀ e ∈ entries, print e.2 = .ok (shown e.2)) :
    printEntries entries = .ok (shownEntries entries) := by
  induction entries with
  | nil => rfl
  | cons e rest ih =>
    rw [List.forall_mem_cons] at h
    rw [printEntries, h.1, ih h.2, shownEntries]
    rfl

theorem printItems_eq {items : List Node} (h : ∀ node ∈ items, print node = .ok (shown node)) :
    printItems items = .ok (shownItems items) := by
  induction items with
  | nil => rfl
  | cons node rest ih =>
    rw [List.forall_mem_cons] at h
    rw [printItems, h.1, ih h.2, shownItems]
    rfl

/-- A tree can be written, as it is shown. -/
theorem print_eq (tree : Node) : print tree = .ok (shown tree) := by
  induction tree with
  | compound entries ih =>
    rw [print, printEntries_eq ih, shown]
    rfl
  | list items ih =>
    rw [print, printItems_eq ih, shown]
    rfl
  | number quantity => rw [print, Notation.printNumber_quantity, shown]
  | text value => rw [print, shown]

end Value

/-- The message of a mismatch can be written if the predicate was read from a text. -/
theorem AssertionFault.print_mismatch {source : String} {p : Predicate}
    (reads : Notation.parse source = .ok p) (tree : Node) :
    (mismatch p tree).print = .ok (mismatch p tree).message := by
  obtain ⟨⟨fields, negated, rfl⟩, hregular, -⟩ := Notation.fits_of_parse reads
  rw [print, Notation.print_of_regular hregular rfl, Value.print_eq]
  rfl

/-! ## Verdicts -/

/-- What the assertion of a value comes to is what the check comes to: it passes where the check says
yes, fails where it says no, with a message about the predicate and the tree that were checked, and
raises what the check raises. -/
structure Verdict.Agrees (source : String) (value : Value) (verdict : Verdict) : Prop where
  passes : verdict = .passes ↔ check source value = .ok true
  fails : (∃ message, verdict = .fails message) ↔ check source value = .ok false
  raises : ∀ cause, verdict = .raises cause ↔ check source value = .error cause
  written : ∀ cause, verdict ≠ .unwritten cause
  message : ∀ message, verdict = .fails message → ∃ p tree, Notation.parse source = .ok p ∧
    value.toNode = .ok tree ∧ message = (AssertionFault.mismatch p tree).message

namespace Verdict

variable {source : String} {value : Value} {p : Predicate} {tree : Node}

theorem agrees_passes (h : check source value = .ok true) : Agrees source value .passes where
  passes := by simp [h]
  fails := by simp [h]
  raises := by simp [h]
  written := by simp
  message := by simp

theorem agrees_raises {cause : CheckFault} (h : check source value = .error cause) :
    Agrees source value (.raises cause) where
  passes := by simp [h]
  fails := by simp [h]
  raises := by simp [h]
  written := by simp
  message := by simp

theorem agrees_mismatch (reads : Notation.parse source = .ok p) (builds : value.toNode = .ok tree)
    (h : check source value = .ok false) :
    Agrees source value (.of (.error (.mismatch p tree))) := by
  rw [of, AssertionFault.print_mismatch reads]
  constructor
  · simp [h]
  · simp [h]
  · simp [h]
  · simp
  · rintro message ⟨⟩
    exact ⟨p, tree, reads, builds, rfl⟩

/-- A predicate that was read from the text of the check says what the check says. -/
theorem agrees_assert (reads : Notation.parse source = .ok p) (value : Value) :
    Agrees source value (.of (p.assert value)) := by
  have hcheck : check source value = p.check value := by
    rw [check, reads]
    rfl
  unfold Predicate.check at hcheck
  unfold Predicate.assert
  cases builds : value.toNode with
  | error cause =>
    rw [builds] at hcheck
    exact agrees_raises hcheck
  | ok tree =>
    have hevaluate : check source value = .ok (p.holds tree) := by
      rw [hcheck, builds]
      show (p.evaluate tree).mapError _ = _
      rw [Predicate.evaluate_eq]
      rfl
    have hassert : ((p.evaluate tree).mapError fun cause => AssertionFault.check (.evaluation cause))
        = .ok (p.holds tree) := by
      rw [Predicate.evaluate_eq]
      rfl
    show Agrees source value (.of ((p.evaluate tree).mapError _ >>= _))
    rw [hassert]
    cases hholds : p.holds tree with
    | true => exact agrees_passes (hholds ▸ hevaluate)
    | false => exact agrees_mismatch reads builds (hholds ▸ hevaluate)

/-- A text that cannot be read is refused as the check refuses it. -/
theorem agrees_refused {failure : Notation.Failure} (refuses : Notation.parse source = .error failure)
    (value : Value) : Agrees source value (.raises (.text source failure)) := by
  refine agrees_raises ?_
  rw [check, refuses]
  rfl

end Verdict

/-! ## One assertion after another -/

/-- The store after some assertions. -/
def Store.assertAll {σ : Type} (store : Store σ Predicate) (calls : List (String × Value)) : σ :=
  calls.foldl (fun s call => (store.assert s call.1 call.2).2) store.empty

namespace Store.Lawful

variable {σ : Type} {store : Store σ Predicate} {capacity : Nat}
  {entries : σ → List (String × Predicate)} {s : σ}

theorem assert_snd (store : Store σ Predicate) (s : σ) (source : String) (value : Value) :
    (store.assert s source value).2 = (store.parse s source).2 := by
  unfold assert
  split <;> next h => rw [h]

/-- Nothing comes into the store but what was read. -/
theorem read_assert (h : store.Lawful capacity entries)
    (read : ∀ e ∈ entries s, Notation.parse e.1 = .ok e.2) (source : String) (value : Value) :
    ∀ e ∈ entries (store.assert s source value).2, Notation.parse e.1 = .ok e.2 := by
  rw [assert_snd]
  exact h.read_parse read source

theorem read_assertAll (h : store.Lawful capacity entries) (calls : List (String × Value)) :
    ∀ e ∈ entries (store.assertAll calls), Notation.parse e.1 = .ok e.2 := by
  have hstart : ∀ e ∈ entries store.empty, Notation.parse e.1 = .ok e.2 := by
    rw [h.entries_empty]
    exact List.forall_mem_nil _
  unfold assertAll
  -- every call keeps what the store had to be to begin with
  generalize store.empty = s at hstart
  induction calls generalizing s with
  | nil => exact hstart
  | cons call rest ih => exact ih _ (h.read_assert hstart call.1 call.2)

/-- A store with nothing but what was read makes no difference to an assertion. -/
theorem agrees_assert (h : store.Lawful capacity entries)
    (read : ∀ e ∈ entries s, Notation.parse e.1 = .ok e.2) (source : String) (value : Value) :
    (store.assert s source value).1.Agrees source value := by
  have hparse := h.parse_fst read source
  unfold assert
  split
  · next p s' heq =>
    rw [heq] at hparse
    exact Verdict.agrees_assert hparse.symm value
  · next failure s' heq =>
    rw [heq] at hparse
    exact Verdict.agrees_refused hparse.symm value

end Store.Lawful

/-- An asserter makes no difference to an assertion. -/
theorem Asserter.agrees_judge (asserter : Asserter) (source : String) (value : Value) :
    (asserter.judge source value).1.Agrees source value := by
  have hparse := asserter.cache.parse_fst source
  unfold judge assert
  cases heq : asserter.cache.parse source with
  | mk result cache =>
    rw [heq] at hparse
    cases result with
    | ok p => exact Verdict.agrees_assert hparse.symm value
    | error failure => exact Verdict.agrees_refused hparse.symm value

/-- After any assertions of any texts and values, be there room for them in the store or not, an
assertion passes exactly where the check of its text and value says yes, fails exactly where the check
says no, with a message that can always be written, and raises exactly what the check raises. So does
an assertion by an asserter, whatever its cache keeps. -/
theorem assert_agrees (source : String) (value : Value) :
    (∀ {σ : Type} (store : Store σ Predicate) (capacity : Nat)
      (entries : σ → List (String × Predicate)), store.Lawful capacity entries →
      ∀ calls : List (String × Value),
        (store.assert (store.assertAll calls) source value).1.Agrees source value) ∧
    ∀ asserter : Asserter, (asserter.judge source value).1.Agrees source value :=
  ⟨fun _ _ _ h calls => h.agrees_assert (h.read_assertAll calls) source value,
    fun asserter => asserter.agrees_judge source value⟩

/-- Assertions of three texts, one of which cannot be read. -/
def assertedBefore : List (String × Value) :=
  [("{a: 1}", .record [(.key "a", .number (.int 1))]), ("{a: }", .nothing),
   ("{b: 1}", .text "b"), ("{c: 1}", .nothing)]

theorem assert_agrees_recent :
    ((Recent.store 1 Predicate).assert ((Recent.store 1 Predicate).assertAll assertedBefore)
      "{a: 1}" (.record [(.key "a", .number (.int 2))])).1.Agrees
        "{a: 1}" (.record [(.key "a", .number (.int 2))]) :=
  (assert_agrees _ _).1 (Recent.store 1 Predicate) 1 Recent.entries
    (Recent.lawful (by decide) Predicate) assertedBefore

end TreePredicate
